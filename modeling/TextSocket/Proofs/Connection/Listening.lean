import TextSocket.Proofs.Connection.Closing
import TextSocket.Proofs.Connection.Hearing
import TextSocket.Proofs.Socket.Slot

/-!
# `Proofs.Connection.Listening` — one move, as reading sees it

While nobody closes a connection, a move of a call either leaves alone what is read, or it is the turn of a read. In its
turn a read asks the socket once, and what it is told then is its outcome.

## Contents

* `Unclosed` — connections that nobody closes;
* `told` — what a call has reported;
* `Listening`, `Move.listening` — what a move does to what is read;
* `Move.advances` — what never goes back.
-/

namespace TextSocket

namespace Connection

open Net (Attempt)
open Socket (Keeps Slot Posts Advances)

/-! ## Connections that nobody closes -/

/-- Whether an event is neither a call that closes nor a reset. -/
def Event.IsCalm : Event → Prop
  | .enter .close | .peer .reset => False
  | _ => True

/-- A connection that nobody has begun to close. -/
structure Unclosed (c : Connection) : Prop where
  /-- No call closes. -/
  calls : ∀ {n call stage}, c.At n call stage → call ≠ .close
  /-- The flag and the signal are clear, and both halves are there. -/
  gates : c.gates = ⟨false, false, false, false⟩

section unclosed

variable {c c' : Connection} {now n : Nat} {call : Call} {stage stage' : Call.Stage}

theorem Unclosed.closed (h : Unclosed c) : c.closed = false := congrArg Gates.flag h.gates

theorem Unclosed.signal (h : Unclosed c) : c.signal = false := congrArg Gates.signal h.gates

theorem Unclosed.reader (h : Unclosed c) : c.reader = true := by
  have hgone : (!c.reader) = false := congrArg Gates.reading h.gates
  simpa using hgone

theorem Unclosed.move (h : Unclosed c) (hc : Coherent c) (hat : c.At n call stage)
    (hmove : Move c now n call stage c') : Unclosed c' := by
  obtain ⟨stage', hs⟩ := hc.shape hat hmove
  constructor
  · intro m call' stage'' hat'
    by_cases hne : m = n
    · subst hne
      obtain ⟨rfl, _⟩ := hs.at_self.unique hat'
      exact h.calls hat
    · exact h.calls ((hs.at_iff hne).mp hat')
  · rw [hmove.gates_eq (hc.suits hat) (h.calls hat)]
    exact h.gates

theorem Unclosed.enter (h : Unclosed c) (hc : Coherent c) (hcall : call ≠ .close) :
    Unclosed (c.enter c.calls.length call) := by
  constructor
  · intro m call' stage' hat
    rcases hc.at_enter.mp hat with hold | ⟨_, rfl, _⟩
    · exact h.calls hold
    · exact hcall
  · exact h.gates

theorem Unclosed.onWire (h : Unclosed c) (change : Net.Wire → Net.Wire) : Unclosed (c.onWire change) :=
  ⟨fun hat => h.calls ((at_congr rfl).mp hat), h.gates⟩

/-! ## One move -/

/-- What a call has reported, if it has not been given up. -/
def told (c : Connection) (n : Nat) : Option Call.Outcome :=
  (c.outcome? n).filter fun outcome => !isTimeout outcome

theorem told_of_over {outcome : Call.Outcome} (hat : c.At n call (.finished outcome)) :
    c.told n = (some outcome).filter fun outcome => !isTimeout outcome := by
  unfold told
  rw [outcome?_of_at hat]

theorem told_of_not_over (hat : c.At n call stage) (hgoes : stage.isOver = false) : c.told n = none := by
  unfold told outcome?
  rw [show c.call? n = _ from hat]
  cases stage with
  | finished outcome => cases hgoes
  | _ => rfl

/-- **What a move of a read or a write does to what is read.** Either it leaves that alone, or it is the turn of a
    read, which asks the socket once. -/
inductive Listening (c : Connection) (n : Nat) (stage : Call.Stage) (c' : Connection) : Prop where
  /-- It leaves alone what is read. A read that ends so has been given up. -/
  | aside (hsocket : Keeps c.socket c'.socket) (hno : c.grants .reading n = false)
      (hsame : stage.isOver = true → c' = c)
      (htimeout : ∀ outcome, c'.At n .read (.finished outcome) → stage.isOver = true ∨ isTimeout outcome = true)
  /-- It is the turn of a read. -/
  | turn (hgrants : c.grants .reading n = true) (hsocket : c'.socket = (nextText c.socket).2)
      (htold : c'.told n = (said (nextText c.socket).1).filter fun outcome => !isTimeout outcome)

/-- A write leaves alone what is read. -/
theorem listening_write (hc : Coherent c) (hat : c.At n call stage) (hmove : Move c now n call stage c')
    (hcall : call ≠ .read) (hgoes : stage.isOver = false) (hsocket : Keeps c.socket c'.socket) :
    Listening c n stage c' := by
  obtain ⟨stage', hs⟩ := hc.shape hat hmove
  refine .aside hsocket (not_grants_of_ne_read hat hcall) (fun hover => ?_) fun outcome hat' => ?_
  · rw [hgoes] at hover
    cases hover
  · exact absurd (hs.at_self.unique hat').1.symm hcall

/-- A read that is not yet waiting leaves the socket alone. -/
theorem listening_early (hat : c.At n call stage) (hstage : ∀ deadline, stage ≠ .waiting deadline)
    (hgoes : stage.isOver = false) (hsocket : Keeps c.socket c'.socket) (hat' : c'.At n call stage')
    (hgoes' : stage'.isOver = false) : Listening c n stage c' := by
  refine .aside hsocket (not_grants_of_not_waiting hat hstage) (fun hover => ?_) fun outcome hover => ?_
  · rw [hgoes] at hover
    cases hover
  · obtain ⟨_, rfl⟩ := hat'.unique hover
    cases hgoes'

/-- A call that waits comes to its end only by being given up. -/
theorem isTimeout_of_await (hat : c.At n call stage) (hgoes : stage.isOver = false) {cause : Error}
    (hcause : isTimeout (.failed cause) = true) {deadline : Nat} {outcome : Call.Outcome}
    (hover : (c.await now n deadline cause).At n call (.finished outcome)) : isTimeout outcome = true := by
  obtain ⟨stage', hat', hstage⟩ := hat.await now deadline cause
  obtain ⟨_, rfl⟩ := hat'.unique hover
  rcases hstage with rfl | hfailed
  · cases hgoes
  · cases hfailed
    exact hcause

/-- When a call waits, it reports nothing, also if it is given up. -/
theorem told_await (hat : c.At n call stage) (hgoes : stage.isOver = false) {cause : Error}
    (hcause : isTimeout (.failed cause) = true) (now deadline : Nat) :
    (c.await now n deadline cause).told n = none := by
  obtain ⟨stage', hat', rfl | rfl⟩ := hat.await now deadline cause
  · exact told_of_not_over hat' hgoes
  · rw [told_of_over hat', Option.filter_some, if_neg (by simp [hcause])]

/-- **Every move of a read or a write** leaves alone what is read, or is the turn of a read. -/
theorem Move.listening (hmove : Move c now n call stage c') (hc : Coherent c) (hat : c.At n call stage)
    (hopen : Unclosed c) : Listening c n stage c' := by
  have write := listening_write hc hat hmove
  have hcall := hopen.calls hat
  have hsuits := hc.suits hat
  -- nobody closes, so there are no moves of closing, and no call finds the connection closed
  have closing : stage.closes = true → False := fun hcloses => hcall (hsuits.eq_close hcloses)
  cases hmove with
  | refused _ hclosed =>
    rw [hopen.closed] at hclosed
    cases hclosed
  | woken _ hsignal =>
    rw [hopen.signal] at hsignal
    cases hsignal
  | bereftRead _ _ _ hreader =>
    rw [hopen.reader] at hreader
    cases hreader
  | passed _ | flagged _ | astray _ => exact absurd rfl hcall
  | signalled | queuedClose _ | took _ _ _ | missed _ _ | closed _ _ _ | closeBlocked _ _ _ | queuedLeave _
    | left _ => exact (closing rfl).elim
  | tested deadline _ _ =>
    exact listening_early hat (by simp) rfl (Keeps.refl _) (at_setStage hat (.tested deadline)) rfl
  | subscribed deadline =>
    exact listening_early hat (by simp) rfl (Keeps.refl _) (at_setStage hat (.waiting deadline)) rfl
  | idle hstage =>
    have hno : c.grants .reading n = false := not_grants_of_not_waiting hat fun deadline hwaiting => by
      rw [hwaiting] at hstage
      cases hstage
    exact .aside (Keeps.refl _) hno (fun _ => rfl) fun _ _ => Or.inl hstage
  | queuedRead deadline _ hqueue =>
    -- it is not served, so it is not its turn
    refine .aside ?_ (not_grants_of_not_serves hat hqueue) (fun hover => by cases hover) fun outcome hover => Or.inr ?_
    · rw [socket_await]
      exact Keeps.refl _
    · exact isTimeout_of_await (c := { c with readers := c.readers.join n }) hat rfl rfl hover
  | read deadline hsignal hqueue _ hnext | readFailed deadline hsignal hqueue _ hnext =>
    refine .turn ((grants_iff hat).mpr ⟨⟨deadline, rfl⟩, rfl, hsignal, hqueue⟩) ?_ ?_
    · rw [hnext]
      rfl
    · rw [hnext]
      exact told_of_over (at_conclude (c := { c with readers := c.readers.join n, socket := _ }) hat _)
  | @readBlocked deadline socket hsignal hqueue _ hnext =>
    refine .turn ((grants_iff hat).mpr ⟨⟨deadline, rfl⟩, rfl, hsignal, hqueue⟩) ?_ ?_
    · rw [hnext]
      exact socket_await _ now n deadline _
    · rw [hnext]
      exact told_await (c := { c with readers := c.readers.join n, socket }) hat rfl rfl now deadline
  | queuedWrite deadline _ _ =>
    refine write (by simp) rfl ?_
    rw [socket_await]
    exact Keeps.refl _
  | bereftWrite _ _ _ _ => exact write (by simp) rfl (Keeps.refl _)
  | @fed text _ slot _ _ _ _ _ hfeed | @feedFailed text _ slot _ _ _ _ _ _ hfeed =>
    have hkeeps := Socket.Slot.feed_keeps slot c.socket text
    rw [hfeed] at hkeeps
    exact write (by simp) rfl hkeeps
  | @feedBlocked text deadline slot slot' socket _ _ _ hfeed =>
    have hkeeps := Socket.Slot.feed_keeps slot c.socket text
    rw [hfeed] at hkeeps
    refine write (by simp) rfl ?_
    rw [socket_await]
    exact hkeeps
  | bereftFlush _ _ _ => exact write (fun hread => by rw [hread] at hsuits; exact hsuits) rfl (Keeps.refl _)
  | @flushed _ _ slot _ _ _ _ hflush | @flushFailed _ _ slot _ _ _ _ _ hflush =>
    have hkeeps := Socket.Slot.flush_keeps slot c.socket
    rw [hflush] at hkeeps
    exact write (fun hread => by rw [hread] at hsuits; exact hsuits) rfl hkeeps
  | @flushBlocked _ deadline slot slot' socket _ _ hflush =>
    have hkeeps := Socket.Slot.flush_keeps slot c.socket
    rw [hflush] at hkeeps
    refine write (fun hread => by rw [hread] at hsuits; exact hsuits) rfl ?_
    rw [socket_await]
    exact hkeeps

end unclosed

/-! ## What never goes back -/

/-- **Reading a text puts no text on the stream.** -/
theorem nextText_posts (s : Socket) : Posts s [] (nextText s).2 :=
  nextTextWith_rel Posts.refl Posts.trans_nil Socket.next_posts _ s

/-- **No move takes anything back from the stream**, and none resets it. -/
theorem Move.advances {c c' : Connection} {now n : Nat} {call : Call} {stage : Call.Stage}
    (hmove : Move c now n call stage c') : Advances c.socket c'.socket :=
  hmove.socket_rel Advances.refl (fun s => (nextText_posts s).advances)
    (fun slot s text => (Slot.feed_keeps slot s text).advances) (fun slot s => (Slot.flush_keeps slot s).advances)
    Slot.close_advances fun _ =>
      ⟨List.prefix_rfl, .refl _, rfl, fun h => h, Net.Wire.stuck_of_notes (.refl _) rfl rfl⟩

end Connection

end TextSocket
