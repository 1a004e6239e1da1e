import TextSocket.Proofs.Socket.Slot

/-!
# `Proofs.Socket.Ending` — what is over for a reader stays over

Two things keep a socket from giving further messages. Its reading half has met a failure, or a close frame has come
in. The first is a note of the reading half, the second a phase of the connection, and each goes its own way, since
writing and closing change phases as well. But **neither is ever undone** (`Lasts`), by no operation of either half.

So a socket on which one of them holds is mute (`Mute`): whatever has arrived behind, it gives no message any more
(`next_mute`). And whatever ends reading leaves it mute: a failure is noted, and a message that is a close frame is
given only when the phase has changed (`next_close`).

## Contents

* `Onward`, `Lasts` with `drain_onward` to `Slot.close_onward` and `next_lasts` — what no operation undoes;
* `Mute`, `next_mute` — sockets that give no further message;
* `next_close`, `next_going`, `next_over` — what makes them so.
-/

namespace TextSocket.Socket

open Net (Attempt)

/-! ## What no operation undoes -/

/-- **What the operations below the reading half do to reading**: they do not end it, and let no frames come where none
    may come. -/
structure Onward (s t : Socket) : Prop where
  /-- Reading has come as far as before. -/
  ended : t.ended = s.ended
  /-- Behind the close frame of the peer no frames may come. -/
  silent : s.phase.canRead = false → t.phase.canRead = false

/-- **What is over for a reader stays over.** -/
structure Lasts (s t : Socket) : Prop where
  /-- Reading that has come to its end does not begin again. -/
  ended : s.ended = true → t.ended = true
  /-- Behind the close frame of the peer no frames may come. -/
  silent : s.phase.canRead = false → t.phase.canRead = false

section onward

variable {s t u : Socket}

theorem Onward.refl (s : Socket) : Onward s s := ⟨rfl, id⟩

theorem Onward.trans (h : Onward s t) (k : Onward t u) : Onward s u :=
  ⟨k.ended.trans h.ended, k.silent ∘ h.silent⟩

theorem Onward.of_same (hended : t.ended = s.ended) (hphase : t.phase = s.phase) : Onward s t :=
  ⟨hended, fun h => by rw [hphase]; exact h⟩

theorem Onward.lasts (h : Onward s t) : Lasts s t := ⟨fun hended => h.ended.trans hended, h.silent⟩

theorem Lasts.refl (s : Socket) : Lasts s s := ⟨id, id⟩

theorem Lasts.trans (h : Lasts s t) (k : Lasts t u) : Lasts s u := ⟨k.ended ∘ h.ended, k.silent ∘ h.silent⟩

theorem onward_andThen {α β : Type} {result : Result α} (next : α → Socket → Result β) (h : Onward s result.2)
    (k : ∀ value t, Onward t (next value t).2) : Onward s (result.andThen next).2 := by
  rcases result with ⟨value | cause | _, t⟩
  · exact h.trans (k value t)
  · exact h
  · exact h

theorem drain_onward (s : Socket) : Onward s s.drain.2 := by
  obtain ⟨hsends, hphase, _⟩ := s.drain_sends
  exact .of_same hsends.keeps.ended hphase

theorem enqueue_onward (s : Socket) (frame : Frame) : Onward s (s.enqueue frame).2 := by
  obtain ⟨hsends, hphase, _⟩ := s.enqueue_sends frame
  exact .of_same hsends.keeps.ended hphase

/-- A connection that is over takes no frames either. -/
theorem conclude_onward (s : Socket) (flush : Bool) : Onward s (s.conclude flush).2 := by
  have hdrained := s.drain_onward
  unfold conclude
  split
  · rcases hdrain : s.drain with ⟨value | cause | _, t⟩
    all_goals rw [hdrain] at hdrained
    · exact ⟨hdrained.ended, fun _ => rfl⟩
    · exact hdrained
    · exact hdrained
  · exact Onward.refl s

theorem writeReply_onward (s : Socket) : Onward s s.writeReply.2 := by
  rw [writeReply_eq]
  cases s.reply with
  | none => exact s.conclude_onward s.unflushed
  | some frame =>
    have hcleared : Onward s { s with reply := none } := .of_same rfl rfl
    have hqueued := hcleared.trans ({ s with reply := none }.enqueue_onward frame)
    exact onward_andThen _ hqueued fun _ t => t.conclude_onward true

theorem writeFrame_onward (s : Socket) (frame : Frame) : Onward s (s.writeFrame frame).2 := by
  rw [writeFrame_eq]
  exact onward_andThen _ (s.enqueue_onward frame) fun _ t => t.writeReply_onward

theorem flush_onward (s : Socket) : Onward s s.flush.2 := by
  rw [flush_eq]
  refine onward_andThen _ s.writeReply_onward fun _ t => ?_
  exact onward_andThen _ t.drain_onward fun _ u => .of_same rfl rfl

theorem write_onward (s : Socket) (text : String) : Onward s (s.write text).2 := by
  by_cases hactive : s.phase = .active
  · rw [write_eq hactive]
    refine onward_andThen _ (s.writeFrame_onward _) fun flush t => ?_
    cases flush with
    | false => exact Onward.refl t
    | true => exact t.flush_onward
  · obtain ⟨cause, hwrite⟩ := write_refused hactive text
    rw [hwrite]
    exact Onward.refl s

/-- Who begins to close may still read, and has not been told that he may not. -/
theorem close_onward (s : Socket) : Onward s s.close.2 := by
  by_cases hactive : s.phase = .active
  · rw [close_eq hactive]
    have hbegun : Onward s { s with phase := .closedByUs } := by
      refine ⟨rfl, fun hsilent => ?_⟩
      rw [hactive] at hsilent
      cases hsilent
    have hframe := hbegun.trans (writeFrame_onward { s with phase := .closedByUs } closeFrame)
    exact onward_andThen _ hframe fun _ t => t.flush_onward
  · rw [close_eq_flush hactive]
    exact s.flush_onward

/-! ## The writing half -/

theorem prepare_onward (s : Socket) : Onward s s.prepare.2 := by
  have hflushed := s.flush_onward
  unfold prepare
  split
  · exact Onward.refl s
  · rcases hflush : s.flush with ⟨value | cause | _, t⟩
    all_goals
      rw [hflush] at hflushed
      exact hflushed.trans (.of_same rfl rfl)

theorem submit_onward (s : Socket) (text : String) : Onward s (s.submit text).2 := by
  have hwritten := s.write_onward text
  unfold submit
  rcases hwrite : s.write text with ⟨value | cause | _, t⟩
  all_goals
    rw [hwrite] at hwritten
    exact hwritten.trans (.of_same rfl rfl)

theorem settle_onward (s : Socket) : Onward s s.settle.2 := by
  have hflushed := s.flush_onward
  unfold settle
  rcases hflush : s.flush with ⟨value | cause | _, t⟩
  all_goals
    rw [hflush] at hflushed
    exact hflushed.trans (.of_same rfl rfl)

theorem finish_onward (s : Socket) : Onward s s.finish.2 := by
  have hready : Onward s { s with ready := true } := .of_same rfl rfl
  have hresult : Onward s (if s.closing then ({ s with ready := true } : Socket).flush
      else ({ s with ready := true } : Socket).close).2 := by
    split
    · exact hready.trans (flush_onward _)
    · exact hready.trans (close_onward _)
  unfold finish
  simp only
  rcases hfinish : (if s.closing then ({ s with ready := true } : Socket).flush
    else ({ s with ready := true } : Socket).close) with ⟨value | cause | _, t⟩
  all_goals
    rw [hfinish] at hresult
    exact hresult.trans (.of_same rfl rfl)

theorem Slot.empty_onward (slot : Slot) (s : Socket) : Onward s (Slot.empty slot s).2.2 := by
  cases slot with
  | none => exact Onward.refl s
  | some text =>
    have hprepared := s.prepare_onward
    unfold Slot.empty
    rcases hprepare : s.prepare with ⟨value | cause | _, t⟩
    all_goals rw [hprepare] at hprepared
    · exact hprepared.trans (t.submit_onward text)
    · exact hprepared
    · exact hprepared

theorem Slot.feed_onward (slot : Slot) (s : Socket) (text : String) : Onward s (Slot.feed slot s text).2.2 := by
  have hemptied := Slot.empty_onward slot s
  unfold Slot.feed
  rcases hempty : Slot.empty slot s with ⟨value | cause | _, slot', t⟩
  all_goals
    rw [hempty] at hemptied
    exact hemptied

theorem Slot.flush_onward (slot : Slot) (s : Socket) : Onward s (Slot.flush slot s).2.2 := by
  have hemptied := Slot.empty_onward slot s
  unfold Slot.flush
  rcases hempty : Slot.empty slot s with ⟨value | cause | _, slot', t⟩
  all_goals rw [hempty] at hemptied
  · exact hemptied.trans t.settle_onward
  · exact hemptied
  · exact hemptied

theorem Slot.close_onward (slot : Slot) (s : Socket) : Onward s (Slot.close slot s).2.2 := by
  have hemptied := Slot.empty_onward slot s
  unfold Slot.close
  rcases hempty : Slot.empty slot s with ⟨value | cause | _, slot', t⟩
  all_goals rw [hempty] at hemptied
  · exact hemptied.trans t.finish_onward
  · exact hemptied
  · exact hemptied

/-! ## The reading half -/

theorem setReply_onward (s : Socket) (reply : Frame) :
    Onward s (s.setReply reply) ∧ (s.setReply reply).phase = s.phase := by
  unfold setReply
  split
  · exact ⟨.of_same rfl rfl, rfl⟩
  · split
    · exact ⟨.of_same rfl rfl, rfl⟩
    · exact ⟨Onward.refl s, rfl⟩

/-- **A close frame that means something changes the phase**, so that no frames may come behind it. -/
theorem receiveClose_onward (s : Socket) (reason : Option CloseReason) : Onward s (s.receiveClose reason).2 ∧
    ((s.receiveClose reason).1 ≠ none → (s.receiveClose reason).2.phase.canRead = false) := by
  unfold receiveClose
  split
  · generalize reason.map (fun r => if CloseReason.isAllowed r.code then r else .violation) = answer
    have hclosed : Onward s { s with phase := .closedByPeer } := ⟨rfl, fun _ => rfl⟩
    obtain ⟨hreply, hphase⟩ :=
      setReply_onward { s with phase := .closedByPeer } (.whole .close (CloseReason.payload answer))
    refine ⟨hclosed.trans hreply, fun _ => ?_⟩
    show (setReply { s with phase := .closedByPeer } (.whole .close (CloseReason.payload answer))).phase.canRead = _
    rw [hphase]
    rfl
  · exact ⟨⟨rfl, fun _ => rfl⟩, fun _ => rfl⟩
  · exact ⟨Onward.refl s, fun hno => absurd rfl hno⟩

theorem extend_onward (s : Socket) (assembly : Assembly) (frame : Frame) :
    Onward s (s.extend assembly frame).2 := by
  unfold extend
  split
  · exact Onward.refl s
  · split
    · exact .of_same rfl rfl
    · exact .of_same rfl rfl

theorem receiveData_onward (s : Socket) (frame : Frame) : Onward s (s.receiveData frame).2 := by
  unfold receiveData
  split
  · exact Onward.refl s
  · exact s.extend_onward _ frame
  · exact Onward.refl s
  · split
    · exact Onward.refl s
    · exact s.extend_onward _ frame

theorem receiveControl_onward (s : Socket) (frame : Frame) : Onward s (s.receiveControl frame).2 := by
  unfold receiveControl
  split
  · exact Onward.refl s
  · split
    · exact Onward.refl s
    · split
      · simp only
        split
        · exact (s.setReply_onward _).1
        · exact Onward.refl s
      · exact Onward.refl s
      · split
        · exact Onward.refl s
        · next reason _ => exact (s.receiveClose_onward reason).1

theorem receive_onward (s : Socket) (frame : Frame) : Onward s (s.receive frame).2 := by
  unfold receive
  repeat' split
  all_goals first
    | exact Onward.refl s
    | exact s.receiveControl_onward frame
    | exact s.receiveData_onward frame

theorem starve_onward (s : Socket) : Onward s s.starve.2 := by
  unfold starve Net.Wire.wait
  cases s.wire.ending with
  | «open» => exact Onward.refl s
  | reset => exact .of_same rfl rfl
  | ended => exact ⟨rfl, fun _ => rfl⟩
  | dead => exact ⟨rfl, fun _ => rfl⟩

theorem takeFrame_onward (s : Socket) : Onward s s.takeFrame.2 := by
  rw [takeFrame_eq]
  split
  · exact s.starve_onward
  · exact Onward.refl s
  · exact Onward.refl s
  · next frame rest _ =>
    have htaken : Onward s (s.taken rest) := .of_same rfl rfl
    exact htaken.trans ((s.taken rest).receive_onward frame)

theorem answerFirst_onward (s : Socket) : Onward s s.answerFirst.2 := by
  have hflushed := s.flush_onward
  unfold answerFirst
  split
  · rcases hflush : s.flush with ⟨value | cause | _, t⟩
    all_goals
      rw [hflush] at hflushed
      exact hflushed.trans (.of_same rfl rfl)
  · split
    · exact ⟨rfl, fun _ => rfl⟩
    · exact Onward.refl s

theorem read_onward (s : Socket) : Onward s s.read.2 :=
  read_rel Onward.refl Onward.trans answerFirst_onward takeFrame_onward s

/-- Only the reading half itself ends reading. -/
theorem next_lasts (s : Socket) : Lasts s s.next.2 :=
  next_rel Lasts.refl Lasts.trans (fun s => s.answerFirst_onward.lasts) (fun s => s.takeFrame_onward.lasts)
    (fun _ => ⟨fun _ => rfl, id⟩) s

/-! ## Sockets that give no further message -/

/-- **No message is given any more**: reading has come to its end, or the peer has sent a close frame. -/
def Mute (s : Socket) : Prop := s.ended = true ∨ s.phase.canRead = false

theorem Mute.lasts (h : Mute s) (k : Lasts s t) : Mute t := h.imp k.ended k.silent

/-- A frame that comes behind the close frame of the peer is refused. -/
theorem receive_silent (hsilent : s.phase.canRead = false) (frame : Frame) :
    ∃ cause, s.receive frame = (.error cause, s) := by
  unfold receive
  split
  · exact ⟨_, rfl⟩
  · rw [hsilent]
    exact ⟨_, rfl⟩

theorem takeFrame_silent (hsilent : s.phase.canRead = false) (message? : Option Message) :
    s.takeFrame.1 ≠ .ok message? := by
  rw [takeFrame_eq]
  split
  · unfold starve Net.Wire.wait
    cases s.wire.ending
    all_goals exact fun h => by cases h
  · exact fun h => by cases h
  · exact fun h => by cases h
  · next frame rest _ =>
    have hsilent' : (s.taken rest).phase.canRead = false := hsilent
    obtain ⟨cause, hrefused⟩ := receive_silent hsilent' frame
    rw [hrefused]
    exact fun h => by cases h

/-- Behind the close frame of the peer, a read has to wait or fails. -/
theorem read_silent (hsilent : s.phase.canRead = false) (message : Message) : s.read.1 ≠ .ok message := by
  unfold read
  split
  · exact fun h => by cases h
  · have hsilent' := s.answerFirst_onward.silent hsilent
    rw [readWith_eq]
    rcases hanswer : s.answerFirst with ⟨value | cause | _, t⟩
    all_goals rw [hanswer] at hsilent'
    · have hnone := takeFrame_silent hsilent'
      rw [Result.andThen]
      rcases htake : t.takeFrame with ⟨message? | cause | _, u⟩
      all_goals rw [htake] at hnone
      · exact absurd rfl (hnone message?)
      · exact fun h => by cases h
      · exact fun h => by cases h
    · exact fun h => by cases h
    · exact fun h => by cases h

/-- **A mute socket gives no message.** -/
theorem next_mute (h : Mute s) (message : Message) : s.next.1 ≠ .ok (some message) := by
  unfold next
  split
  · exact fun h => by cases h
  · next hgoing =>
    have hread := read_silent (h.resolve_left hgoing)
    rcases hresult : s.read with ⟨message' | cause | _, t⟩
    all_goals rw [hresult] at hread
    · exact absurd rfl (hread message')
    · intro he
      simp only at he
      split at he
      all_goals cases he
    · exact fun h => by cases h

/-! ## What makes a socket mute -/

/-- **A close frame is given only with the phase changed**: if a result is the message that is one, no frames may come
    behind it. -/
def Closes (result : Except Error (Option Message) × Socket) : Prop :=
  ∀ reason, result.1 = .ok (some (.close reason)) → result.2.phase.canRead = false

theorem textOf_ne_close (bytes : Bytes) (reason : Option CloseReason) :
    (textOf bytes).map some ≠ .ok (some (.close reason)) := by
  unfold textOf
  split
  · exact fun h => by cases h
  · exact fun h => by cases h

/-- A message of data is no close frame. -/
theorem extend_closes (s : Socket) (assembly : Assembly) (frame : Frame) : Closes (s.extend assembly frame) := by
  intro reason
  unfold extend
  split
  · exact fun h => by cases h
  · next assembly' _ =>
    split
    · unfold Assembly.complete
      split
      · exact fun h => absurd h (textOf_ne_close assembly'.bytes reason)
      · exact fun h => by cases h
    · exact fun h => by cases h

theorem receiveData_closes (s : Socket) (frame : Frame) : Closes (s.receiveData frame) := by
  intro reason
  unfold receiveData
  split
  · exact fun h => by cases h
  · exact s.extend_closes _ frame reason
  · exact fun h => by cases h
  · split
    · split
      · exact fun h => absurd h (textOf_ne_close frame.payload reason)
      · exact fun h => by cases h
    · exact s.extend_closes _ frame reason

theorem receiveControl_closes (s : Socket) (frame : Frame) : Closes (s.receiveControl frame) := by
  intro reason
  unfold receiveControl
  split
  · exact fun h => by cases h
  · split
    · exact fun h => by cases h
    · split
      · exact fun h => by cases h
      · exact fun h => by cases h
      · split
        · exact fun h => by cases h
        · next reason' _ =>
          intro h
          have hmessage : (s.receiveClose reason').1 = some (.close reason) := by injection h
          exact (s.receiveClose_onward reason').2 (by rw [hmessage]; simp)

theorem receive_closes (s : Socket) (frame : Frame) : Closes (s.receive frame) := by
  unfold receive
  repeat' split
  all_goals first
    | exact fun _ h => by cases h
    | exact s.receiveControl_closes frame
    | exact s.receiveData_closes frame

theorem takeFrame_close (s : Socket) (reason : Option CloseReason) :
    s.takeFrame.1 = .ok (some (.close reason)) → s.takeFrame.2.phase.canRead = false := by
  rw [takeFrame_eq]
  split
  · unfold starve Net.Wire.wait
    cases s.wire.ending
    all_goals exact fun h => by cases h
  · exact fun h => by cases h
  · exact fun h => by cases h
  · next frame rest _ =>
    intro h
    refine (s.taken rest).receive_closes frame reason ?_
    cases hreceive : ((s.taken rest).receive frame).1 with
    | error cause =>
      rw [hreceive] at h
      cases h
    | ok message? =>
      rw [hreceive] at h
      injection h with h
      rw [h]

/-- **Behind the message that is a close frame no frames may come.** The induction is on the frames that may be
    taken. -/
theorem readWith_close (fuel : Nat) (reason : Option CloseReason) :
    (s.readWith fuel).1 = .ok (.close reason) → (s.readWith fuel).2.phase.canRead = false := by
  induction fuel generalizing s with
  | zero => exact fun h => by cases h
  | succ fuel ih =>
    rw [readWith_eq]
    rcases s.answerFirst with ⟨value | cause | _, t⟩
    · have hclose := t.takeFrame_close reason
      show (t.takeFrame.andThen _).1 = _ → (t.takeFrame.andThen _).2.phase.canRead = false
      rcases htake : t.takeFrame with ⟨(_ | message) | cause | _, u⟩
      all_goals rw [htake] at hclose
      · exact ih
      · intro h
        injection h with h
        exact hclose (by rw [h])
      · exact fun h => by cases h
      · exact fun h => by cases h
    · exact fun h => by cases h
    · exact fun h => by cases h

theorem next_close (s : Socket) (reason : Option CloseReason) :
    s.next.1 = .ok (some (.close reason)) → s.next.2.phase.canRead = false := by
  have hread : s.read.1 = .ok (.close reason) → s.read.2.phase.canRead = false := by
    unfold read
    split
    · exact fun h => by cases h
    · exact readWith_close _ reason
  unfold next
  split
  · exact fun h => by cases h
  · rcases hresult : s.read with ⟨message | cause | _, t⟩
    all_goals rw [hresult] at hread
    · intro h
      injection h with h
      injection h with h
      exact hread (by rw [h])
    · intro h
      simp only at h
      split at h
      all_goals cases h
    · exact fun h => by cases h

/-- **A reading half that has to wait, or gives a message, goes on.** -/
theorem next_going (s : Socket) : (s.next.1 = .blocked ∨ ∃ message, s.next.1 = .ok (some message)) →
    Onward s s.next.2 := by
  have hread := s.read_onward
  unfold next
  split
  · exact fun _ => Onward.refl s
  · rcases hresult : s.read with ⟨message | cause | _, t⟩
    all_goals rw [hresult] at hread
    · exact fun _ => hread
    · intro h
      simp only at h
      split at h
      all_goals
        rcases h with h | ⟨message, h⟩
        · cases h
        · cases h
    · exact fun _ => hread

/-- **A failure of the reading half is noted, and so is the end that it finds.** -/
theorem next_over (s : Socket) : (s.next.1 = .ok none ∨ ∃ cause, s.next.1 = .error cause) → s.next.2.ended = true := by
  unfold next
  split
  · next hended => exact fun _ => hended
  · rcases s.read with ⟨message | cause | _, t⟩
    · rintro (h | ⟨cause, h⟩)
      · cases h
      · cases h
    · exact fun _ => rfl
    · rintro (h | ⟨cause, h⟩)
      · cases h
      · cases h

end onward

end TextSocket.Socket
