import TextSocket.Proofs.Connection.Ending

/-!
# `Proofs.Connection.Aftermath` — the reads behind one that has failed for good

What a read leaves behind decides what becomes of the reads that end later, whatever happens in between: bytes may
arrive, calls may be made, and the connection may be closed.

Behind a mute socket no read gets a message (`Hushed`), and behind the flag every new read is turned away (`Shut`).
Behind the end that the reading half has noted **every read finds the connection closed** when it has its turn
(`step_ended`), so a read ends otherwise only if it is given up before its turn (`Spent`).

## Contents

* `Hushed`, `Shut`, `Spent` with `Hushed.run`, `Shut.run`, `Spent.run` — reads that end later;
* `step_ended`, `run_ended` — a read that has its turn, and one that nobody stands in the way of.
-/

namespace TextSocket.Connection

open Socket (Mute)

section later

variable {h k : History} {c' : Connection} {now n : Nat} {call : Call} {stage : Call.Stage}

/-! ## Behind a mute socket -/

/-- **No read gets a message any more**, from a moment `h` on. -/
structure Hushed (h k : History) : Prop where
  /-- Stages and queues agree. -/
  coherent : Coherent k.connection
  /-- The socket is mute. -/
  mute : Mute k.connection.socket
  /-- A read that has come to its end since then has got no message. -/
  ends : ∀ {m outcome}, k.connection.At m .read (.finished outcome) → h.connection.outcome? m = none →
    outcome.isData = false

theorem Hushed.move (hk : Hushed h k) (hat : k.connection.At n call stage)
    (hmove : Move k.connection now n call stage c') : Hushed h (k.moved n c') := by
  obtain ⟨stage', hs⟩ := hk.coherent.shape hat hmove
  constructor
  case coherent => exact hk.coherent.of_shape hat hs
  case mute => exact hk.mute.lasts hmove.lasts
  case ends =>
    intro m outcome hat' hsince
    rcases hk.coherent.over_before hat hmove hat' with hbefore | ⟨rfl, hgoes⟩
    · exact hk.ends hbefore hsince
    · rcases (hmove.reading hk.coherent hat hgoes).ends hat' with ⟨rfl, _⟩ | ⟨htimeout, _⟩ | ⟨_, hsaid⟩
      · rfl
      · exact (isFinal_of_isTimeout htimeout).2
      · exact Call.Outcome.isData_of_isFinal (nextText_mute hk.mute hsaid)

theorem Hushed.other (hk : Hushed h k) {event : Event} (hevent : ∀ now n, event ≠ .step now n) :
    Hushed h (k.after event) := by
  have hstill := hk.coherent.still hevent
  exact ⟨hstill.coherent, hk.mute.lasts hstill.socket.lasts, fun hat hsince => hk.ends (hstill.finished.mp hat) hsince⟩

/-- **Behind a mute socket no read gets a message.** -/
theorem hushed_run (hc : Coherent h.connection) (hmute : Mute h.connection.socket) (later : List Event) :
    Hushed h (h.run later) := by
  refine History.run_of_move (Q := fun _ => True) (fun hk hat hmove => hk.move hat hmove)
    (fun hk _ hevent => hk.other hevent) ⟨hc, hmute, fun hat hsince => ?_⟩ (fun _ _ => trivial)
  rw [outcome?_of_at hat] at hsince
  cases hsince

/-! ## Behind the flag -/

/-- **Every new read is turned away**, from a moment `h` on. -/
structure Shut (h k : History) : Prop where
  /-- Stages and queues agree. -/
  coherent : Coherent k.connection
  /-- The flag is set. -/
  closed : k.connection.closed = true
  /-- A read that has been made since then has done nothing, or finds the connection closed. -/
  begun : ∀ {m stage}, k.connection.At m .read stage → h.connection.calls.length ≤ m →
    stage = .begun ∨ stage = .finished (.failed .connectionClosed)

theorem Shut.move (hk : Shut h k) (hat : k.connection.At n call stage)
    (hmove : Move k.connection now n call stage c') : Shut h (k.moved n c') := by
  obtain ⟨stage', hs⟩ := hk.coherent.shape hat hmove
  constructor
  case coherent => exact hk.coherent.of_shape hat hs
  case closed => exact (hmove.gates_within (hk.coherent.suits hat)).flag hk.closed
  case begun =>
    intro m stage'' hat' hnew
    by_cases hne : m = n
    · subst hne
      obtain ⟨rfl, rfl⟩ := hs.at_self.unique hat'
      rcases hk.begun hat hnew with rfl | rfl
      · cases hmove with
        | refused _ _ => exact Or.inr (hs.at_self.unique (at_conclude hat _)).2.symm
        | tested _ _ hclear =>
          rw [hk.closed] at hclear
          cases hclear
        | woken hlistens _ => cases hlistens
        | idle hover => cases hover
      · exact Or.inr (hs.finished rfl)
    · exact hk.begun ((hs.at_iff hne).mp hat') hnew

theorem Shut.other (hk : Shut h k) {event : Event} (hevent : ∀ now n, event ≠ .step now n) :
    Shut h (k.after event) := by
  have hstill := hk.coherent.still hevent
  refine ⟨hstill.coherent, hstill.closed.trans hk.closed, fun hat hnew => ?_⟩
  rcases Event.enter_or_peer hevent with ⟨call, rfl⟩ | ⟨act, rfl⟩
  · rcases hk.coherent.at_enter.mp hat with hat | ⟨_, _, hbegun⟩
    · exact hk.begun hat hnew
    · exact Or.inl hbegun
  · exact hk.begun ((at_congr rfl).mp hat) hnew

/-- **Behind the flag every new read is turned away.** -/
theorem shut_run (hc : Coherent h.connection) (hclosed : h.connection.closed = true) (later : List Event) :
    Shut h (h.run later) := by
  refine History.run_of_move (Q := fun _ => True) (fun hk hat hmove => hk.move hat hmove)
    (fun hk _ hevent => hk.other hevent) ⟨hc, hclosed, fun {m} stage hat hnew => ?_⟩ (fun _ _ => trivial)
  -- there is no such call yet
  have hnone := hc.fresh m hnew
  rw [show h.connection.call? m = _ from hat] at hnone
  cases hnone

/-! ## Behind the end of the reading half -/

/-- **No read gets anything but the end any more**, from a moment `h` on, unless it is given up before its turn. -/
structure Spent (h k : History) : Prop where
  /-- A read that fails for good leaves its mark. -/
  settles : Settles k
  /-- The reading half has noted its end. -/
  ended : k.connection.socket.ended = true
  /-- A read that has come to its end since then has found the connection closed, or has been given up before its
      turn. -/
  ends : ∀ {m outcome}, k.connection.At m .read (.finished outcome) → h.connection.outcome? m = none →
    outcome = .failed .connectionClosed ∨ isTimeout outcome = true ∧ m ∉ k.order .reading

theorem Spent.move (hk : Spent h k) (hat : k.connection.At n call stage)
    (hmove : Move k.connection now n call stage c') : Spent h (k.moved n c') := by
  have hc := hk.settles.turns.coherent
  constructor
  case settles => exact hk.settles.move hat hmove
  case ended => exact hmove.lasts.ended hk.ended
  case ends =>
    intro m outcome hat' hsince
    rcases hc.over_before hat hmove hat' with hbefore | ⟨rfl, hgoes⟩
    · -- a call that is over does not obtain a half
      refine (hk.ends hbefore hsince).imp_right fun ⟨htimeout, hno⟩ => ⟨htimeout, fun hmem => ?_⟩
      rcases mem_granted.mp hmem with hm | ⟨rfl, hgrants⟩
      · exact hno hm
      · rw [not_grants_of_not_waiting hbefore (by simp)] at hgrants
        cases hgrants
    · rcases (hmove.reading hc hat hgoes).ends hat' with ⟨rfl, _⟩ | ⟨htimeout, hblocked⟩ | ⟨_, hsaid⟩
      · exact Or.inl rfl
      · refine Or.inr ⟨htimeout, fun hmem => ?_⟩
        rcases mem_granted.mp hmem with hm | ⟨_, hgrants⟩
        · -- whoever has had its turn is over
          obtain ⟨call', outcome', hover⟩ := hk.settles.idle hk.ended m hm
          obtain ⟨_, rfl⟩ := hat.unique hover
          cases hgoes
        · have hnext := hblocked hgrants
          rw [nextText_ended hk.ended] at hnext
          cases hnext
      · rw [nextText_ended hk.ended] at hsaid
        cases hsaid
        exact Or.inl rfl

theorem Spent.other (hk : Spent h k) {event : Event} (hevent : ∀ now n, event ≠ .step now n) :
    Spent h (k.after event) := by
  have hstill := hk.settles.turns.coherent.still hevent
  refine ⟨hk.settles.other hevent, hstill.socket.ended.trans hk.ended, fun hat hsince => ?_⟩
  rw [hstill.order]
  exact hk.ends (hstill.finished.mp hat) hsince

/-- **Behind the end that the reading half has noted, reads find the connection closed.** -/
theorem spent_run (hr : Settles h) (hended : h.connection.socket.ended = true) (later : List Event) :
    Spent h (h.run later) := by
  refine History.run_of_move (Q := fun _ => True) (fun hk hat hmove => hk.move hat hmove)
    (fun hk _ hevent => hk.other hevent) ⟨hr, hended, fun hat hsince => ?_⟩ (fun _ _ => trivial)
  rw [outcome?_of_at hat] at hsince
  cases hsince

/-- **Whose turn it is finds the connection closed**, and does not wait. -/
theorem step_ended {c : Connection} (hgrants : c.grants .reading n = true) (hended : c.socket.ended = true)
    (now : Nat) : (c.step now n).outcome? n = some (.failed .connectionClosed) := by
  obtain ⟨call, deadline, hat⟩ := at_of_grants hgrants
  obtain rfl := eq_read_of_grants hat hgrants
  obtain ⟨_, _, hsignal, hqueue⟩ := (grants_iff hat).mp hgrants
  have hqueue : (c.readers.join n).serves n = true := hqueue
  have hjoined : ({ c with readers := c.readers.join n } : Connection).At n .read (.waiting deadline) := hat
  rw [step_eq_advance hat]
  show (c.pollRead now n deadline).outcome? n = _
  unfold pollRead
  rw [hsignal]
  simp only [Bool.false_eq_true, if_false, hqueue, if_true, nextText_ended hended]
  split
  · exact outcome?_of_at (at_conclude hjoined _)
  · exact outcome?_of_at (at_conclude hjoined _)

/-- A call that is over takes no more steps. -/
theorem step_of_over {c : Connection} {outcome : Call.Outcome} (hat : c.At n call (.finished outcome)) (now : Nat) :
    c.step now n = c :=
  step_eq_advance hat now

/-- **A read that nobody stands in the way of finds the connection closed** with its third step at the latest. -/
theorem run_ended (hc : Coherent h.connection) (hended : h.connection.socket.ended = true)
    (hfree : h.connection.readers = []) (t₁ t₂ t₃ : Nat) :
    (h.run [.enter .read, .step t₁ h.connection.calls.length, .step t₂ h.connection.calls.length,
      .step t₃ h.connection.calls.length]).connection.outcome? h.connection.calls.length =
        some (.failed .connectionClosed) := by
  generalize hnumber : h.connection.calls.length = n
  show ((((h.connection.enter h.connection.calls.length .read).step t₁ n).step t₂ n).step t₃ n).outcome? n = _
  rw [hnumber]
  have hbegun : (h.connection.enter n .read).At n .read .begun := by
    rw [← hnumber]
    exact hc.at_enter.mpr (Or.inr ⟨rfl, rfl, rfl⟩)
  have hreaders : (h.connection.enter n .read).readers = [] := hfree
  have hended' : (h.connection.enter n .read).socket.ended = true := hended
  generalize h.connection.enter n .read = c at hbegun hreaders hended'
  cases hclosed : c.closed with
  | true =>
    have hover := at_conclude hbegun (.failed .connectionClosed)
    rw [step_refused hbegun (by simp) hclosed, show c.fail n .connectionClosed = c.conclude n _ from rfl,
      step_of_over hover, step_of_over hover]
    exact outcome?_of_at hover
  | false =>
    have hsteps : (c.step t₁ n).step t₂ n = c.setStage n (.waiting (t₁ + c.config.receiveTimeout.nanos)) := by
      have hfirst : c.step t₁ n = c.setStage n (.tested (t₁ + c.config.receiveTimeout.nanos)) := by
        rw [step_eq_advance hbegun]
        show (if c.closed then _ else _) = _
        rw [hclosed]
        rfl
      rw [hfirst, step_eq_advance (at_setStage hbegun _)]
      exact setStage_setStage c n _ _
    rw [hsteps]
    have hwaiting := at_setStage hbegun (.waiting (t₁ + c.config.receiveTimeout.nanos))
    cases hsignal : c.signal with
    | true =>
      rw [step_woken hwaiting (by simp) rfl hsignal]
      exact outcome?_of_at (at_conclude hwaiting _)
    | false =>
      refine step_ended ((grants_iff hwaiting).mpr ⟨⟨_, rfl⟩, rfl, hsignal, ?_⟩) hended' t₃
      show (c.readers.join n).serves n = true
      rw [hreaders]
      simp [Queue.join, Queue.serves]

end later

end TextSocket.Connection
