import TextSocket.Proofs.Connection.Run

/-!
# `Proofs.Connection.Moves` — what a step can do

A step of a call looks at the flag, the signal, its queue, its half and the clock, in an order of its own. Here each
way through a step is a rule with a name (`Move`), which states what was found on the way and what has become of the
connection. A write may go two ways in one step: its text is put into the slot, and then everything is put on the
stream. So a step is one move or two (`advance_moves`), and a property that every move keeps holds along every run
(`History.run_of_move`).

## Contents

* `Move` — the rules;
* `advance_moves` — every step follows them;
* `History.run_of_move` — induction over runs by moves.
-/

namespace TextSocket

/-- Whether a call listens for the signal. -/
@[simp]
def Call.Stage.listens : Call.Stage → Bool
  | .waiting _ | .flushing _ => true
  | _ => false

namespace Connection

open Net (Attempt)

/-! ## Rules -/

/-- **A move** of the call with number `n`: what a step does that goes one way. -/
inductive Move (c : Connection) (now n : Nat) : Call → Call.Stage → Connection → Prop where
  /-- A read or a write finds the flag set. -/
  | refused {call : Call} (hcall : call ≠ .close) (hclosed : c.closed = true) :
      Move c now n call .begun (c.fail n .connectionClosed)
  /-- A read or a write finds the flag clear. -/
  | tested {call : Call} (deadline : Nat) (hcall : call ≠ .close) (hclosed : c.closed = false) :
      Move c now n call .begun (c.setStage n (.tested deadline))
  /-- A call that closes finds the flag set. -/
  | passed (hclosed : c.closed = true) : Move c now n .close .begun (c.conclude n .done)
  /-- A call that closes sets the flag. -/
  | flagged (hclosed : c.closed = false) :
      Move c now n .close .begun ({ c with closed := true }.setStage n .flagged)
  /-- A read or a write begins to listen. -/
  | subscribed {call : Call} (deadline : Nat) :
      Move c now n call (.tested deadline) (c.setStage n (.waiting deadline))
  /-- A read or a write finds the signal set. -/
  | woken {call : Call} {stage : Call.Stage} (hstage : stage.listens = true) (hsignal : c.signal = true) :
      Move c now n call stage (c.fail n .connectionClosed)
  /-- A read has to wait for its half. -/
  | queuedRead (deadline : Nat) (hsignal : c.signal = false) (hqueue : (c.readers.join n).serves n = false) :
      Move c now n .read (.waiting deadline) ({ c with readers := c.readers.join n }.await now n deadline c.readTimeout)
  /-- A read finds its half taken away. -/
  | bereftRead (deadline : Nat) (hsignal : c.signal = false) (hqueue : (c.readers.join n).serves n = true)
      (hreader : c.reader = false) :
      Move c now n .read (.waiting deadline) ({ c with readers := c.readers.join n }.fail n .connectionClosed)
  /-- A read gets a text. -/
  | read (deadline : Nat) {text : String} {socket : Socket} (hsignal : c.signal = false)
      (hqueue : (c.readers.join n).serves n = true) (hreader : c.reader = true)
      (hnext : nextText c.socket = (.ok text, socket)) :
      Move c now n .read (.waiting deadline)
        ({ c with readers := c.readers.join n, socket }.conclude n (.text text))
  /-- A read fails. -/
  | readFailed (deadline : Nat) {cause : Error} {socket : Socket} (hsignal : c.signal = false)
      (hqueue : (c.readers.join n).serves n = true) (hreader : c.reader = true)
      (hnext : nextText c.socket = (.error cause, socket)) :
      Move c now n .read (.waiting deadline) ({ c with readers := c.readers.join n, socket }.fail n cause)
  /-- A read has to wait for bytes. -/
  | readBlocked (deadline : Nat) {socket : Socket} (hsignal : c.signal = false)
      (hqueue : (c.readers.join n).serves n = true) (hreader : c.reader = true)
      (hnext : nextText c.socket = (.blocked, socket)) :
      Move c now n .read (.waiting deadline)
        ({ c with readers := c.readers.join n, socket }.await now n deadline c.readTimeout)
  /-- A write has to wait for its half. -/
  | queuedWrite {text : String} (deadline : Nat) (hsignal : c.signal = false)
      (hqueue : (c.writers.join n).serves n = false) :
      Move c now n (.write text) (.waiting deadline)
        ({ c with writers := c.writers.join n }.await now n deadline c.writeTimeout)
  /-- A write finds its half taken away. -/
  | bereftWrite {text : String} (deadline : Nat) (hsignal : c.signal = false)
      (hqueue : (c.writers.join n).serves n = true) (hwriter : c.writer = none) :
      Move c now n (.write text) (.waiting deadline)
        ({ c with writers := c.writers.join n }.fail n .connectionClosed)
  /-- A write puts its text into the slot. -/
  | fed {text : String} (deadline : Nat) {slot slot' : Socket.Slot} {socket : Socket} (hsignal : c.signal = false)
      (hqueue : (c.writers.join n).serves n = true) (hwriter : c.writer = some slot)
      (hfeed : slot.feed c.socket text = (.ok (), slot', socket)) :
      Move c now n (.write text) (.waiting deadline)
        ({ c with writers := c.writers.join n, socket, writer := some slot' }.setStage n (.flushing deadline))
  /-- A write fails before its text is in the slot. -/
  | feedFailed {text : String} (deadline : Nat) {slot slot' : Socket.Slot} {socket : Socket}
      {cause : Socket.Error} (hsignal : c.signal = false) (hqueue : (c.writers.join n).serves n = true)
      (hwriter : c.writer = some slot) (hfeed : slot.feed c.socket text = (.error cause, slot', socket)) :
      Move c now n (.write text) (.waiting deadline)
        ({ c with writers := c.writers.join n, socket, writer := some slot' }.fail n (.socket cause))
  /-- A write has to wait for the text that is in the slot. -/
  | feedBlocked {text : String} (deadline : Nat) {slot slot' : Socket.Slot} {socket : Socket}
      (hsignal : c.signal = false) (hqueue : (c.writers.join n).serves n = true) (hwriter : c.writer = some slot)
      (hfeed : slot.feed c.socket text = (.blocked, slot', socket)) :
      Move c now n (.write text) (.waiting deadline)
        ({ c with writers := c.writers.join n, socket, writer := some slot' }.await now n deadline c.writeTimeout)
  /-- A write finds the writing half taken away while it puts everything on the stream. -/
  | bereftFlush {call : Call} (deadline : Nat) (hsignal : c.signal = false) (hwriter : c.writer = none) :
      Move c now n call (.flushing deadline) (c.fail n .connectionClosed)
  /-- A write has put everything on the stream. -/
  | flushed {call : Call} (deadline : Nat) {slot slot' : Socket.Slot} {socket : Socket}
      (hsignal : c.signal = false) (hwriter : c.writer = some slot)
      (hflush : slot.flush c.socket = (.ok (), slot', socket)) :
      Move c now n call (.flushing deadline) ({ c with socket, writer := some slot' }.conclude n .done)
  /-- A write fails while it puts everything on the stream. -/
  | flushFailed {call : Call} (deadline : Nat) {slot slot' : Socket.Slot} {socket : Socket} {cause : Socket.Error}
      (hsignal : c.signal = false) (hwriter : c.writer = some slot)
      (hflush : slot.flush c.socket = (.error cause, slot', socket)) :
      Move c now n call (.flushing deadline) ({ c with socket, writer := some slot' }.fail n (.socket cause))
  /-- A write has to wait for room on the stream. -/
  | flushBlocked {call : Call} (deadline : Nat) {slot slot' : Socket.Slot} {socket : Socket}
      (hsignal : c.signal = false) (hwriter : c.writer = some slot)
      (hflush : slot.flush c.socket = (.blocked, slot', socket)) :
      Move c now n call (.flushing deadline)
        (({ c with socket, writer := some slot' }.setStage n (.flushing deadline)).await now n deadline c.writeTimeout)
  /-- A call that closes sets the signal. -/
  | signalled {call : Call} : Move c now n call .flagged ({ c with signal := true }.setStage n .signalled)
  /-- A call that closes has to wait for the writing half. -/
  | queuedClose {call : Call} (hqueue : (c.writers.join n).serves n = false) :
      Move c now n call .signalled { c with writers := c.writers.join n }
  /-- A call that closes takes the writing half. -/
  | took {call : Call} {slot : Socket.Slot} (deadline : Nat) (hqueue : (c.writers.join n).serves n = true)
      (hwriter : c.writer = some slot) :
      Move c now n call .signalled
        ({ c with writer := none, writers := (c.writers.join n).leave n }.setStage n (.closing slot deadline))
  /-- A call that closes finds the writing half taken away. -/
  | missed {call : Call} (hqueue : (c.writers.join n).serves n = true) (hwriter : c.writer = none) :
      Move c now n call .signalled
        ({ c with writer := none, writers := (c.writers.join n).leave n }.setStage n .leaving)
  /-- A call that closes is done with the writing half. -/
  | closed {call : Call} (deadline : Nat) {slot slot' : Socket.Slot} {socket : Socket}
      {result : Attempt Socket.Error Unit} (hclose : slot.close c.socket = (result, slot', socket))
      (hdone : result ≠ .blocked ∨ deadline ≤ now) :
      Move c now n call (.closing slot deadline) ({ c with socket }.setStage n .leaving)
  /-- A call that closes has to wait for room on the stream. -/
  | closeBlocked {call : Call} (deadline : Nat) {slot slot' : Socket.Slot} {socket : Socket}
      (hclose : slot.close c.socket = (.blocked, slot', socket)) (hearly : now < deadline) :
      Move c now n call (.closing slot deadline) ({ c with socket }.setStage n (.closing slot' deadline))
  /-- A call that closes has to wait for the reading half. -/
  | queuedLeave {call : Call} (hqueue : (c.readers.join n).serves n = false) :
      Move c now n call .leaving { c with readers := c.readers.join n }
  /-- A call that closes takes the reading half away, and the stream is left. -/
  | left {call : Call} (hqueue : (c.readers.join n).serves n = true) :
      Move c now n call .leaving
        ({ c with readers := c.readers.join n, reader := false }.release.conclude n .done)
  /-- A call that is over takes no more steps. -/
  | idle {call : Call} {stage : Call.Stage} (hstage : stage.isOver = true) : Move c now n call stage c
  /-- A call that closes never waits as a read or a write does. -/
  | astray (deadline : Nat) : Move c now n .close (.waiting deadline) c

/-! ## Every step follows the rules -/

section advance

variable (c : Connection) (now n : Nat)

theorem start_move (call : Call) : Move c now n call .begun (c.start now n call) := by
  cases hclosed : c.closed with
  | true =>
    cases call with
    | close => simpa [start, hclosed] using Move.passed hclosed
    | read => simpa [start, hclosed] using Move.refused (by simp) hclosed
    | write text => simpa [start, hclosed] using Move.refused (by simp) hclosed
  | false =>
    cases call with
    | close => simpa [start, hclosed] using Move.flagged hclosed
    | read => simpa [start, hclosed] using Move.tested _ (by simp) hclosed
    | write text => simpa [start, hclosed] using Move.tested _ (by simp) hclosed

theorem pollRead_move (deadline : Nat) :
    Move c now n .read (.waiting deadline) (c.pollRead now n deadline) := by
  unfold pollRead
  split
  · next hsignal => exact .woken rfl hsignal
  · next hsignal =>
    have hsignal := Bool.eq_false_iff.mpr hsignal
    simp only
    split
    · next hqueue =>
      split
      · next hreader =>
        rcases hnext : nextText c.socket with ⟨text | cause | _, socket⟩
        · exact .read deadline hsignal hqueue hreader hnext
        · exact .readFailed deadline hsignal hqueue hreader hnext
        · exact .readBlocked deadline hsignal hqueue hreader hnext
      · next hreader => exact .bereftRead deadline hsignal hqueue (Bool.eq_false_iff.mpr hreader)
    · next hqueue => exact .queuedRead deadline hsignal (Bool.eq_false_iff.mpr hqueue)

theorem pollFlush_move (call : Call) (deadline : Nat) :
    Move c now n call (.flushing deadline) (c.pollFlush now n deadline) := by
  unfold pollFlush
  split
  · next hsignal => exact .woken rfl hsignal
  · next hsignal =>
    have hsignal := Bool.eq_false_iff.mpr hsignal
    split
    · next hwriter => exact .bereftFlush deadline hsignal hwriter
    · next slot hwriter =>
      unfold flushWrite
      rcases hflush : slot.flush c.socket with ⟨value | cause | _, slot', socket⟩
      · exact .flushed deadline hsignal hwriter hflush
      · exact .flushFailed deadline hsignal hwriter hflush
      · exact .flushBlocked deadline hsignal hwriter hflush

theorem conclude_setStage (stage : Call.Stage) (outcome : Call.Outcome) :
    (c.setStage n stage).conclude n outcome = c.conclude n outcome :=
  setStage_setStage { c with writers := c.writers.leave n, readers := c.readers.leave n } n stage (.finished outcome)

/-- Putting everything on the stream does not depend on how far the call was noted to have come. -/
theorem pollFlush_setStage (deadline : Nat) {slot : Socket.Slot} (hsignal : c.signal = false)
    (hwriter : c.writer = some slot) :
    (c.setStage n (.flushing deadline)).pollFlush now n deadline = c.flushWrite now n deadline slot := by
  have hsignal' : (c.setStage n (.flushing deadline)).signal = false := hsignal
  have hwriter' : (c.setStage n (.flushing deadline)).writer = some slot := hwriter
  have hsocket : (c.setStage n (.flushing deadline)).socket = c.socket := rfl
  unfold pollFlush
  rw [hsignal', hwriter']
  simp only [Bool.false_eq_true, if_false]
  unfold flushWrite
  rw [hsocket]
  rcases slot.flush c.socket with ⟨value | cause | _, slot', socket⟩
  · exact conclude_setStage { c with socket, writer := some slot' } n _ _
  · exact conclude_setStage { c with socket, writer := some slot' } n _ _
  · exact congrArg (fun c' : Connection => c'.await now n deadline c.writeTimeout)
      (setStage_setStage { c with socket, writer := some slot' } n _ _)

/-- **A write that listens makes one move, or two**: its text is put into the slot, and then everything is put on
    the stream. -/
theorem pollWrite_moves {text : String} {deadline : Nat} (h : c.At n (.write text) (.waiting deadline)) :
    Move c now n (.write text) (.waiting deadline) (c.pollWrite now n deadline text) ∨
      ∃ mid, Move c now n (.write text) (.waiting deadline) mid ∧ mid.At n (.write text) (.flushing deadline) ∧
        mid.closed = c.closed ∧
        Move mid now n (.write text) (.flushing deadline) (c.pollWrite now n deadline text) := by
  unfold pollWrite
  split
  · next hsignal => exact Or.inl (.woken rfl hsignal)
  · next hsignal =>
    have hsignal := Bool.eq_false_iff.mpr hsignal
    simp only
    split
    · next hqueue =>
      split
      · next hwriter => exact Or.inl (.bereftWrite deadline hsignal hqueue hwriter)
      · next slot hwriter =>
        rcases hfeed : slot.feed c.socket text with ⟨value | cause | _, slot', socket⟩
        · -- the text is in the slot, and the same step goes on as the next one would
          have hmove := pollFlush_move (({ c with
            writers := c.writers.join n, socket, writer := some slot' } : Connection).setStage n
              (.flushing deadline)) now n (.write text) deadline
          have hflush := pollFlush_setStage { c with
            writers := c.writers.join n, socket, writer := some slot' } now n deadline hsignal rfl
          rw [hflush] at hmove
          have hat := at_setStage (c := { c with
            writers := c.writers.join n, socket, writer := some slot' }) h (.flushing deadline)
          exact Or.inr ⟨_, .fed deadline hsignal hqueue hwriter hfeed, hat, rfl, hmove⟩
        · exact Or.inl (.feedFailed deadline hsignal hqueue hwriter hfeed)
        · exact Or.inl (.feedBlocked deadline hsignal hqueue hwriter hfeed)
    · next hqueue => exact Or.inl (.queuedWrite deadline hsignal (Bool.eq_false_iff.mpr hqueue))

theorem takeWriter_move (call : Call) : Move c now n call .signalled (c.takeWriter now n) := by
  unfold takeWriter
  simp only
  split
  · next hqueue =>
    split
    · next slot hwriter => exact .took _ hqueue hwriter
    · next hwriter => exact .missed hqueue hwriter
  · next hqueue => exact .queuedClose (Bool.eq_false_iff.mpr hqueue)

theorem pollClose_move (call : Call) (deadline : Nat) (slot : Socket.Slot) :
    Move c now n call (.closing slot deadline) (c.pollClose now n deadline slot) := by
  unfold pollClose
  rcases hclose : slot.close c.socket with ⟨value | cause | _, slot', socket⟩
  · exact .closed deadline hclose (Or.inl (by simp))
  · exact .closed deadline hclose (Or.inl (by simp))
  · simp only
    split
    · next hlate => exact .closed deadline hclose (Or.inr hlate)
    · next hearly => exact .closeBlocked deadline hclose (by omega)

theorem takeReader_move (call : Call) : Move c now n call .leaving (c.takeReader n) := by
  unfold takeReader
  simp only
  split
  · next hqueue => exact .left hqueue
  · next hqueue => exact .queuedLeave (Bool.eq_false_iff.mpr hqueue)

/-- **Every step is one move or two.** The second one is made by a write whose text is in the slot by then. -/
theorem advance_moves {call : Call} {stage : Call.Stage} (h : c.At n call stage) :
    Move c now n call stage (c.advance now ⟨n, call, stage⟩) ∨
      ∃ mid deadline, Move c now n call stage mid ∧ mid.At n call (.flushing deadline) ∧
        mid.closed = c.closed ∧ Move mid now n call (.flushing deadline) (c.advance now ⟨n, call, stage⟩) := by
  cases stage with
  | begun => exact Or.inl (c.start_move now n call)
  | tested deadline => exact Or.inl (.subscribed deadline)
  | waiting deadline =>
    cases call with
    | read => exact Or.inl (c.pollRead_move now n deadline)
    | close => exact Or.inl (.astray deadline)
    | write text =>
      rcases c.pollWrite_moves now n h with hmove | ⟨mid, hmid, hat, hclosed, hmove⟩
      · exact Or.inl hmove
      · exact Or.inr ⟨mid, deadline, hmid, hat, hclosed, hmove⟩
  | flushing deadline => exact Or.inl (c.pollFlush_move now n call deadline)
  | flagged => exact Or.inl .signalled
  | signalled => exact Or.inl (c.takeWriter_move now n call)
  | closing slot deadline => exact Or.inl (c.pollClose_move now n call deadline slot)
  | leaving => exact Or.inl (c.takeReader_move now n call)
  | finished outcome => exact Or.inl (.idle rfl)

end advance

/-! ## Runs by moves -/

/-- A step of a number that no call has leads nowhere. -/
theorem step_eq_of_none {c : Connection} {n : Nat} (h : c.call? n = none) (now : Nat) : c.step now n = c := by
  unfold step
  rw [h]

theorem step_eq_advance {c : Connection} {n : Nat} {call : Call} {stage : Call.Stage} (h : c.At n call stage)
    (now : Nat) : c.step now n = c.advance now ⟨n, call, stage⟩ := by
  unfold step
  rw [show c.call? n = some ⟨n, call, stage⟩ from h]

namespace History

/-- A call obtains a half only while it listens for its half. -/
theorem granted_of_not_waiting {h : History} {n : Nat} {call : Call} {stage : Call.Stage}
    (hat : h.connection.At n call stage) (hstage : ∀ deadline, stage ≠ .waiting deadline) :
    h.granted n = h.order := by
  funext half
  unfold granted grants
  rw [show h.connection.call? n = some ⟨n, call, stage⟩ from hat]
  cases stage with
  | waiting deadline => exact absurd rfl (hstage deadline)
  | _ => rfl

theorem granted_of_none {h : History} {n : Nat} (hnone : h.connection.call? n = none) :
    h.granted n = h.order := by
  funext half
  unfold granted grants
  rw [hnone]
  rfl

theorem moved_of_none {h : History} {n : Nat} (hnone : h.connection.call? n = none) : h.moved n h.connection = h := by
  unfold moved
  rw [granted_of_none hnone]
  cases hclosed : h.connection.closed <;> rfl

/-- Two moves are noted as one, if with the first one the call comes to put everything on the stream. -/
theorem moved_moved {h : History} {n : Nat} {call : Call} {deadline : Nat} {mid : Connection}
    (hat : mid.At n call (.flushing deadline)) (hclosed : mid.closed = h.connection.closed) (c : Connection) :
    (h.moved n mid).moved n c = h.moved n c := by
  have hgranted : (h.moved n mid).granted n = h.granted n := granted_of_not_waiting hat (fun _ => by simp)
  have hflag : (h.moved n mid).connection.closed = h.connection.closed := hclosed
  unfold moved at hgranted hflag ⊢
  rw [hgranted]
  simp only at hflag ⊢
  rw [hflag]
  simp

/-- **Induction over runs.** A property that holds at the start, and is kept by every move, by every new call and by
    whatever the peer does, holds at the end of a run. Of the events of the run something may be known. -/
theorem run_of_move {P : History → Prop} {Q : Event → Prop}
    (move : ∀ {h : History} {now n : Nat} {call : Call} {stage : Call.Stage} {c : Connection}, P h →
      h.connection.At n call stage → Move h.connection now n call stage c → P (h.moved n c))
    (other : ∀ {h : History} {event : Event}, P h → Q event → (∀ now n, event ≠ .step now n) → P (h.after event))
    {h : History} (start : P h) {events : List Event} (known : ∀ event ∈ events, Q event) : P (h.run events) := by
  refine run_of_after (fun h event hmem hP => ?_) start
  have hQ := known event hmem
  cases event with
  | step now n =>
    show P (h.moved n (h.connection.step now n))
    cases hcall : h.connection.call? n with
    | none =>
      rw [step_eq_of_none hcall]
      rw [moved_of_none hcall]
      exact hP
    | some o =>
      obtain ⟨number, call, stage⟩ := o
      obtain rfl : number = n := number_of_call? hcall
      rw [step_eq_advance hcall]
      rcases h.connection.advance_moves now number hcall with hmove | ⟨mid, deadline, hmid, hat, hclosed, hmove⟩
      · exact move hP hcall hmove
      · have hP' := move (move hP hcall hmid) hat hmove
        rw [moved_moved hat hclosed] at hP'
        exact hP'
  | enter call => exact other hP hQ (by simp)
  | peer act => exact other hP hQ (by simp)

end History

end Connection

end TextSocket
