import TextSocket.Proofs.Socket.Slot

/-!
# `Proofs.Socket.Orderly` — writing on a healthy stream

On a healthy stream writing fails in one way only: with the orderly end of a connection that somebody has closed
(`flush_orderly`). The writing half takes this for success when it puts everything on the stream. So **a flush of the
writing half fails on a healthy stream only if it finds a text in the slot** that comes too late for the socket
(`Slot.flush_fails`).

## Contents

* `Orderly`, `flush_orderly` — what writing comes to on a healthy stream;
* `settle_fine`, `submit_fine`, `Slot.flush_fails` — the writing half.
-/

namespace TextSocket.Socket

open Net (Attempt Wire)

/-! ## Writing on a healthy stream -/

/-- **What writing comes to on a healthy stream**: at most to an orderly end, and otherwise the connection has been closed
    as far as before. -/
structure Orderly {α : Type} (s : Socket) (result : Result α) : Prop where
  /-- Only an orderly end is a failure. -/
  failure : s.wire.Healthy → ∀ cause, result.1 = .error cause → cause = .closed
  /-- Without a failure the phase is the same. -/
  phase : (∀ cause, result.1 ≠ .error cause) → result.2.phase = s.phase

section orderly

variable {α β : Type} {s t : Socket}

theorem orderly_andThen {result : Result α} (next : α → Socket → Result β) (h : Orderly s result)
    (hhealthy : s.wire.Healthy → result.2.wire.Healthy)
    (k : ∀ value t, result = (.ok value, t) → Orderly t (next value t)) : Orderly s (result.andThen next) := by
  rcases result with ⟨value | cause | _, t⟩
  · have hk := k value t rfl
    exact ⟨fun hs => hk.failure (hhealthy hs), fun hfine => (hk.phase hfine).trans (h.phase fun _ he => nomatch he)⟩
  · refine ⟨fun hs cause' he => ?_, fun hfine => absurd rfl (hfine cause)⟩
    cases he
    exact h.failure hs cause rfl
  · exact ⟨fun _ _ he => (nomatch he), fun _ => h.phase fun _ he => nomatch he⟩

theorem drain_orderly (s : Socket) : Orderly s s.drain :=
  ⟨fun hs _ he => absurd hs (drain_error he).1, fun _ => s.drain_sends.2.1⟩

theorem enqueue_orderly (s : Socket) (frame : Frame) : Orderly s (s.enqueue frame) := by
  refine ⟨fun hs cause he => ?_, fun _ => (s.enqueue_sends frame).2.1⟩
  have hbuffered := ((s.buffered_sends frame).1.keeps.healthy hs).1
  rw [enqueue_eq] at he
  split at he
  · cases hdrain : (s.buffered frame).drain.1 with
    | error cause' => exact absurd hbuffered (drain_error hdrain).1
    | ok value | blocked =>
      rw [hdrain] at he
      cases he
  · cases he

/-- The end of a connection that its client has closed is an orderly one. -/
theorem conclude_orderly (s : Socket) (flush : Bool) : Orderly s (s.conclude flush) := by
  have hdrained := s.drain_orderly
  unfold conclude
  split
  · rcases hdrain : s.drain with ⟨value | cause | _, t⟩
    all_goals rw [hdrain] at hdrained
    · refine ⟨fun _ cause he => ?_, fun hfine => absurd rfl (hfine .closed)⟩
      cases he
      rfl
    · refine ⟨fun hs cause' he => ?_, fun hfine => absurd rfl (hfine cause)⟩
      cases he
      exact hdrained.failure hs cause rfl
    · exact ⟨fun _ _ he => (nomatch he), fun _ => hdrained.phase fun _ he => nomatch he⟩
  · exact ⟨fun _ _ he => (nomatch he), fun _ => rfl⟩

theorem writeReply_orderly (s : Socket) : Orderly s s.writeReply := by
  rw [writeReply_eq]
  cases hreply : s.reply with
  | none => exact s.conclude_orderly s.unflushed
  | some frame =>
    have hqueued := enqueue_orderly { s with reply := none } frame
    exact orderly_andThen _ ⟨hqueued.failure, hqueued.phase⟩
      (fun hs => ((enqueue_reply_sends hreply).keeps.healthy hs).1) fun _ t _ => t.conclude_orderly true

/-- **On a healthy stream flushing fails only by an orderly end.** -/
theorem flush_orderly (s : Socket) : Orderly s s.flush := by
  obtain ⟨_, hsent⟩ := s.writeReply_sends
  rw [flush_eq]
  refine orderly_andThen _ s.writeReply_orderly (fun hs => (hsent.keeps.healthy hs).1) fun _ t _ => ?_
  refine orderly_andThen _ t.drain_orderly (fun hs => (t.drain_sends.1.keeps.healthy hs).1) fun _ u _ => ?_
  exact ⟨fun _ _ he => (nomatch he), fun _ => rfl⟩

/-! ## The writing half -/

/-- **On a healthy stream putting everything there does not fail.** -/
theorem settle_fine (hhealthy : s.wire.Healthy) (cause : Error) : s.settle.1 ≠ .error cause := by
  have horderly := s.flush_orderly
  unfold settle
  rcases hflush : s.flush with ⟨value | cause' | _, t⟩
  all_goals rw [hflush] at horderly
  · simp
  · obtain rfl := horderly.failure hhealthy cause' rfl
    simp
  · simp

/-- Nor does writing what is in the way, while nobody closes the connection. -/
theorem prepare_fine (hhealthy : s.wire.Healthy) (hactive : s.phase = .active) (cause : Error) :
    s.prepare.1 ≠ .error cause := by
  have hsteady := s.flush_fares.steady hhealthy hactive
  unfold prepare
  split
  · simp
  · rcases hflush : s.flush with ⟨value | cause' | _, t⟩
    all_goals rw [hflush] at hsteady
    · simp
    · exact absurd rfl (hsteady cause')
    · simp

/-- Nor does handing over a text. -/
theorem submit_fine (hhealthy : s.wire.Healthy) (hactive : s.phase = .active) (text : String) (cause : Error) :
    (s.submit text).1 ≠ .error cause := by
  have hsteady := (write_fares hactive text).steady hhealthy hactive
  unfold submit
  rcases hwrite : s.write text with ⟨value | cause' | _, t⟩
  all_goals rw [hwrite] at hsteady
  · simp
  · exact absurd rfl (hsteady cause')
  · simp

/-- Emptying the slot fails on a healthy stream only if a text is in it, and somebody closes the connection. -/
theorem Slot.empty_fails {slot : Slot} {cause : Error} (hhealthy : s.wire.Healthy)
    (hfails : (slot.empty s).1 = .error cause) : s.phase ≠ .active ∧ slot ≠ none := by
  cases slot with
  | none => cases hfails
  | some text =>
    refine ⟨?_, by simp⟩
    intro hactive
    obtain ⟨_, hprepared⟩ := s.prepare_posts
    have hfine := prepare_fine hhealthy hactive
    unfold empty at hfails
    rcases hprepare : s.prepare with ⟨value | cause' | _, t⟩
    all_goals rw [hprepare] at hprepared hfine hfails
    · -- what was in the way has been written, and left the socket as it was
      exact submit_fine (hprepared.healthy hhealthy).1 (hprepared.active.mpr hactive) text cause hfails
    · exact hfine cause' rfl
    · cases hfails

/-- **On a healthy stream a flush fails only if a text is in the slot** and somebody closes the connection. -/
theorem Slot.flush_fails {slot : Slot} {cause : Error} (hhealthy : s.wire.Healthy)
    (hfails : (slot.flush s).1 = .error cause) : s.phase ≠ .active ∧ slot ≠ none := by
  have hkeeps := empty_keeps slot s
  have hempties : ∀ cause, (empty slot s).1 = .error cause → s.phase ≠ .active ∧ slot ≠ none :=
    fun _ => empty_fails hhealthy
  unfold flush at hfails
  rcases hempty : empty slot s with ⟨value | cause' | _, slot', t⟩
  all_goals rw [hempty] at hempties hkeeps hfails
  · -- the slot is empty, and then putting everything on the stream does not fail
    exact absurd hfails (settle_fine (hkeeps.healthy hhealthy).1 cause)
  · exact hempties cause' rfl
  · cases hfails

end orderly

end TextSocket.Socket
