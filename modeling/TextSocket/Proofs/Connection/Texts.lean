import TextSocket.Proofs.Connection.Order

/-!
# `Proofs.Connection.Texts` — texts and the slot

The text of a write is in the hands of its call until the call puts it into the slot of the writing half. That is one
move (`Move.feeds`): the call has its turn, and nothing is in the way of the text that is there. From then on it no longer
depends on the call what becomes of the text, so it is noted which calls have come so far, and in which order
(`History.fed`).

## Contents

* `textOf` — the text of a call;
* `feeds`, `Move.feeds` — a call puts its text into the slot;
* `History.fed`, `History.run_of_feeding` — the calls that do so in a run.
-/

namespace TextSocket

namespace Connection

open Net (Attempt)

/-! ## Texts of calls -/

/-- The text of a write. -/
def textOf (c : Connection) (n : Nat) : Option String :=
  match c.call? n with
  | some ⟨_, .write text, _⟩ => some text
  | _ => none

theorem textOf_of_at {c : Connection} {n : Nat} {text : String} {stage : Call.Stage}
    (hat : c.At n (.write text) stage) : c.textOf n = some text := by
  unfold textOf
  rw [show c.call? n = _ from hat]

theorem at_of_textOf {c : Connection} {n : Nat} {text : String} (htext : c.textOf n = some text) :
    ∃ stage, c.At n (.write text) stage := by
  unfold textOf at htext
  split at htext
  · next number text' stage hcall =>
    cases htext
    obtain rfl : number = n := number_of_call? hcall
    exact ⟨stage, hcall⟩
  · cases htext

/-- A move gives no call another text. -/
theorem Shape.textOf_eq {c c' : Connection} {n : Nat} {call : Call} {stage stage' : Call.Stage}
    (hs : Shape c n call stage stage' c') (hat : c.At n call stage) : c'.textOf = c.textOf := by
  funext m
  by_cases hne : m = n
  · subst hne
    unfold textOf
    rw [show c.call? m = _ from hat, show c'.call? m = _ from hs.at_self]
    cases call <;> rfl
  · unfold textOf
    rw [hs.at_other m hne]

/-- A new call leaves the texts of the others alone. -/
theorem textOf_enter {c : Connection} (hc : Coherent c) (call : Call) {n : Nat} {text : String}
    (htext : c.textOf n = some text) : (c.enter c.calls.length call).textOf n = some text := by
  obtain ⟨stage, hat⟩ := at_of_textOf htext
  exact textOf_of_at (hc.at_enter.mpr (Or.inl hat))

/-! ## Into the slot -/

/-- Whether a call puts its text into the slot with its next step: it has its turn, and the text that is there gives
    way. -/
def feeds (c : Connection) (n : Nat) : Bool :=
  match c.textOf n, c.writer with
  | some text, some slot => c.grants .writing n && (slot.feed c.socket text).1 = .ok ()
  | _, _ => false

/-- The call with a number, if it puts its text into the slot with its next step. -/
def feeder (c : Connection) (n : Nat) : List Nat := if c.feeds n then [n] else []

section feeding

variable {c c' : Connection} {now n : Nat} {call : Call} {stage stage' : Call.Stage}

theorem feeds_iff : c.feeds n = true ↔ ∃ text slot, c.textOf n = some text ∧ c.writer = some slot ∧
    c.grants .writing n = true ∧ (slot.feed c.socket text).1 = .ok () := by
  unfold feeds
  cases htext : c.textOf n with
  | none => simp
  | some text =>
    cases hwriter : c.writer with
    | none => simp
    | some slot => simp

/-- Only a call that waits puts its text into the slot. -/
theorem at_of_feeds (hfeeds : c.feeds n = true) : ∃ call deadline, c.At n call (.waiting deadline) := by
  obtain ⟨_, _, _, _, hgrants, _⟩ := feeds_iff.mp hfeeds
  exact at_of_grants hgrants

theorem mem_feeder {m : Nat} : m ∈ c.feeder n ↔ m = n ∧ c.feeds n = true := by
  unfold feeder
  split
  · next hfeeds => simp [hfeeds]
  · next hno => simp [hno]

theorem nodup_feeder (c : Connection) (n : Nat) : (c.feeder n).Nodup := by
  unfold feeder
  split
  · exact List.nodup_cons.mpr ⟨by simp, List.nodup_nil⟩
  · exact List.nodup_nil

theorem feeder_of_not_waiting (hat : c.At n call stage) (hstage : ∀ deadline, stage ≠ .waiting deadline) :
    c.feeder n = [] := by
  refine if_neg fun hfeeds => ?_
  obtain ⟨_, deadline, hat'⟩ := at_of_feeds hfeeds
  exact hstage deadline (hat.unique hat').2.symm

/-- **A call that puts its text into the slot** goes on to put everything on the stream. -/
theorem Move.feeds (hmove : Move c now n call stage c') (hat : c.At n call stage) (hfeeds : c.feeds n = true) :
    ∃ deadline, stage = .waiting deadline ∧ c'.At n call (.flushing deadline) := by
  obtain ⟨text, slot, htext, hwriter, hgrants, hfeed⟩ := feeds_iff.mp hfeeds
  obtain ⟨⟨deadline, rfl⟩, hhalf, hsignal, hqueue⟩ := (grants_iff hat).mp hgrants
  refine ⟨deadline, rfl, ?_⟩
  -- every other move of a call that waits contradicts one of these
  cases hmove with
  | fed _ _ _ _ _ => exact at_setStage (c := { c with writers := _, socket := _, writer := _ }) hat (.flushing deadline)
  | woken _ hset =>
    rw [hsignal] at hset
    cases hset
  | queuedWrite _ _ hno =>
    rw [show (c.writers.join n).serves n = true from hqueue] at hno
    cases hno
  | bereftWrite _ _ _ hno =>
    rw [hwriter] at hno
    cases hno
  | feedFailed _ _ _ hwriter' hfailed | feedBlocked _ _ _ hwriter' hfailed =>
    rw [hwriter] at hwriter'
    cases hwriter'
    rw [textOf_of_at hat] at htext
    cases htext
    rw [hfailed] at hfeed
    cases hfeed
  | queuedRead _ _ _ | bereftRead _ _ _ _ | read _ _ _ _ _ | readFailed _ _ _ _ _ | readBlocked _ _ _ _ _
    | astray _ => cases hhalf
  | idle hover => cases hover

/-- Whoever does not come to put everything on the stream has not put its text into the slot. -/
theorem Move.feeder_eq_nil (hmove : Move c now n call stage c') (hat : c.At n call stage) (hself : c'.At n call stage')
    (hflush : ∀ deadline, stage' = .flushing deadline → stage = .flushing deadline) : c.feeder n = [] := by
  refine if_neg fun hfeeds => ?_
  obtain ⟨deadline, rfl, hat'⟩ := hmove.feeds hat hfeeds
  cases hflush deadline (hself.unique hat').2.symm

/-- A call that is over puts nothing into the slot. -/
theorem Move.feeder_of_over (hmove : Move c now n call stage c') (hat : c.At n call stage) {m : Nat} {call' : Call}
    {outcome : Call.Outcome} (hover : c'.At m call' (.finished outcome)) : m ∉ c.feeder n := by
  intro hmem
  obtain ⟨rfl, hfeeds⟩ := mem_feeder.mp hmem
  obtain ⟨_, _, hat'⟩ := hmove.feeds hat hfeeds
  cases (hover.unique hat').2

end feeding

end Connection

namespace Connection.History

/-- The calls that put their texts into the slot when something happens. -/
def feeders (h : History) : Event → List Nat
  | .step _ n => h.connection.feeder n
  | _ => []

/-- **The calls that put their texts into the slot in a run**, in this order. -/
def fed (h : History) : List Event → List Nat
  | [] => []
  | event :: events => h.feeders event ++ (h.after event).fed events

/-- **Induction over runs**, with the calls that have put their texts into the slot by then. -/
theorem run_of_feeding {P : History → List Nat → Prop} {Q : Event → Prop}
    (move : ∀ {h : History} {fed : List Nat} {now n : Nat} {call : Call} {stage : Call.Stage} {c : Connection},
      P h fed → h.connection.At n call stage → Move h.connection now n call stage c →
        P (h.moved n c) (fed ++ h.connection.feeder n))
    (other : ∀ {h : History} {fed : List Nat} {event : Event}, P h fed → Q event → (∀ now n, event ≠ .step now n) →
      P (h.after event) fed)
    {h : History} {fed : List Nat} (start : P h fed) {events : List Event} (known : ∀ event ∈ events, Q event) :
    P (h.run events) (fed ++ h.fed events) := by
  have after : ∀ {h : History} {fed : List Nat} {event : Event}, P h fed → Q event →
      P (h.after event) (fed ++ h.feeders event) := by
    intro h fed event hP hQ
    by_cases hevent : ∀ now n, event ≠ .step now n
    · have hnone : h.feeders event = [] := by
        cases event with
        | step now n => exact absurd rfl (hevent now n)
        | _ => rfl
      rw [hnone, List.append_nil]
      exact other hP hQ hevent
    · obtain ⟨now, n, rfl⟩ : ∃ now n, event = .step now n := by simpa using hevent
      show P (h.moved n (h.connection.step now n)) (fed ++ h.connection.feeder n)
      cases hcall : h.connection.call? n with
      | none =>
        have hnone : h.connection.feeder n = [] := by
          refine if_neg fun hfeeds => ?_
          obtain ⟨_, _, hat⟩ := at_of_feeds hfeeds
          rw [show h.connection.call? n = _ from hat] at hcall
          cases hcall
        rw [step_eq_of_none hcall, moved_of_none hcall, hnone, List.append_nil]
        exact hP
      | some o =>
        obtain ⟨number, call, stage⟩ := o
        obtain rfl : number = n := number_of_call? hcall
        rw [step_eq_advance hcall]
        rcases h.connection.advance_moves now number hcall with hmove | ⟨mid, deadline, hmid, hat, hclosed, hmove⟩
        · exact move hP hcall hmove
        · -- with the second move the call puts everything on the stream, and nothing into the slot
          have hP' := move (move hP hcall hmid) hat hmove
          rw [moved_moved hat hclosed, show (h.moved number mid).connection.feeder number = [] from
            feeder_of_not_waiting hat (by simp), List.append_nil] at hP'
          exact hP'
  induction events generalizing h fed with
  | nil =>
    rw [show h.fed [] = [] from rfl, List.append_nil]
    exact start
  | cons event events ih =>
    have hrest := ih (after start (known event List.mem_cons_self)) fun event' hmem =>
      known event' (List.mem_cons_of_mem _ hmem)
    rw [List.append_assoc] at hrest
    exact hrest

end Connection.History

end TextSocket
