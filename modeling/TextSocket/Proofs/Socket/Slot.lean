import TextSocket.Proofs.Socket.Outbound

/-!
# `Proofs.Socket.Slot` — what becomes of the text in the slot

The writing half has a slot for one text, and every call on it begins with the text that is there. That text is
handed to the socket, or it stays, or it is lost (`Slot.Fate`). It is lost only by a call that fails. A call that
has to wait leaves it in one of the two places (`Fate.kept`), so whoever comes next finds it, and no call hands it
over twice.

## Contents

* `prepare_posts`, `submit_posts`, `settle_posts`, `finish_posts` — what the writing half does with the socket;
* `Slot.Fate`, `Slot.Handles` — what becomes of the text in the slot;
* `Slot.empty_handles`, `Slot.feed_handles`, `Slot.flush_handles`, `Slot.close_handles` — the calls one by one;
* `Slot.feed_keeps`, `Slot.flush_keeps` — what they leave alone.
-/

namespace TextSocket.Socket

open Net (Attempt)

/-! ## The writing half and the socket -/

theorem prepare_posts (s : Socket) : Posts s [] s.prepare.2 ∧ Keeps s s.prepare.2 := by
  obtain ⟨sent, hsent⟩ := s.flush_sends
  have hposts := hsent.posts
  have hkeeps := hsent.keeps
  unfold prepare
  split
  · exact ⟨Posts.refl s, Keeps.refl s⟩
  · rcases hflush : s.flush with ⟨value | cause | _, t⟩
    all_goals rw [hflush] at hposts hkeeps
    · exact ⟨hposts.trans (Posts.of_congr rfl rfl rfl rfl rfl id (.refl _)), { hkeeps with }⟩
    · exact ⟨hposts.trans (Posts.of_congr rfl rfl rfl rfl rfl id (.refl _)), { hkeeps with }⟩
    · exact ⟨hposts, hkeeps⟩

/-- **A text that is handed over is written**, unless somebody closes the connection. Then the socket refuses it. -/
theorem submit_posts (s : Socket) {text : String} (hfits : Fits text) :
    ∃ texts, Posts s texts (s.submit text).2 ∧ (s.phase = .active ∧ texts = [Bytes.ofText text] ∨
      s.phase ≠ .active ∧ texts = [] ∧ ∃ cause, (s.submit text).1 = .error cause) := by
  by_cases hactive : s.phase = .active
  · have hposts := write_posts hactive hfits
    refine ⟨[Bytes.ofText text], ?_, Or.inl ⟨hactive, rfl⟩⟩
    unfold submit
    rcases hwrite : s.write text with ⟨value | cause | _, t⟩
    all_goals
      rw [hwrite] at hposts
      exact hposts.trans_nil (Posts.of_congr rfl rfl rfl rfl rfl id (.refl _))
  · obtain ⟨cause, hwrite⟩ := write_refused hactive text
    refine ⟨[], ?_, Or.inr ⟨hactive, rfl, cause, ?_⟩⟩
    · unfold submit
      rw [hwrite]
      exact Posts.of_congr rfl rfl rfl rfl rfl id (.refl _)
    · unfold submit
      rw [hwrite]

theorem submit_keeps (s : Socket) (text : String) : Keeps s (s.submit text).2 := by
  by_cases hactive : s.phase = .active
  · obtain ⟨sent, hsent⟩ := write_sends hactive text
    have hkeeps := hsent.keeps
    unfold submit
    rcases hwrite : s.write text with ⟨value | cause | _, t⟩
    all_goals
      rw [hwrite] at hkeeps
      exact { hkeeps with }
  · obtain ⟨cause, hwrite⟩ := write_refused hactive text
    unfold submit
    rw [hwrite]
    exact { Keeps.refl s with }

/-- **Putting everything on the stream** adds nothing. If it succeeds, everything is there, or the peer has reset
    the stream. -/
theorem settle_posts (s : Socket) :
    Posts s [] s.settle.2 ∧ Keeps s s.settle.2 ∧
      (s.settle.1 = .ok () → s.settle.2.outbox = [] ∨ s.settle.2.wire.ending = .dead) := by
  obtain ⟨sent, hsent⟩ := s.flush_sends
  have hposts := hsent.posts
  have hkeeps := hsent.keeps
  have hfares := s.flush_fares
  have hempty := outbox_flush (s := s)
  unfold settle
  rcases hflush : s.flush with ⟨value | cause | _, t⟩
  all_goals rw [hflush] at hposts hkeeps hfares hempty
  · exact ⟨hposts.trans (Posts.of_congr rfl rfl rfl rfl rfl id (.refl _)), { hkeeps with },
      fun _ => Or.inl (hempty rfl)⟩
  · refine ⟨hposts.trans (Posts.of_congr rfl rfl rfl rfl rfl id (.refl _)), { hkeeps with }, fun h => ?_⟩
    -- an orderly end passes for success, so it matters that it comes behind the last byte
    simp only at h
    split at h
    · next hclosed => exact hfares.closed (by rw [hclosed])
    · cases h
  · exact ⟨hposts, hkeeps, fun h => by cases h⟩

/-- **Sending a close frame** adds no text. -/
theorem finish_posts (s : Socket) : Posts s [] s.finish.2 := by
  have ready : Posts s [] { s with ready := true } := Posts.of_congr rfl rfl rfl rfl rfl id (.refl _)
  have hposts : Posts s [] (if s.closing then ({ s with ready := true } : Socket).flush
      else ({ s with ready := true } : Socket).close).2 := by
    split
    · exact ready.trans (flush_posts _)
    · exact ready.trans (close_posts _)
  unfold finish
  simp only
  rcases hresult : (if s.closing then ({ s with ready := true } : Socket).flush
    else ({ s with ready := true } : Socket).close) with ⟨value | cause | _, t⟩
  all_goals rw [hresult] at hposts
  · exact hposts
  · exact hposts
  · exact hposts.trans (Posts.of_congr rfl rfl rfl rfl rfl id (.refl _))

namespace Slot

/-! ## What becomes of a text -/

/-- The bytes of the text in a slot. -/
def texts (slot : Slot) : List Bytes := slot.toList.map Bytes.ofText

/-- What becomes of the text in a slot: the slot that an operation leaves behind, and the texts that it adds to the
    frames. -/
inductive Fate : Slot → Slot → List Bytes → Prop
  /-- Nothing has happened to it. -/
  | stays (slot : Slot) : Fate slot slot []
  /-- It has been handed over. -/
  | posted (text : String) : Fate (some text) none [Bytes.ofText text]
  /-- It is lost. -/
  | lost (text : String) : Fate (some text) none []

/-- A call on the writing half: what it does to the socket, and what becomes of the text in the slot. It is lost only by
    a failure, and only once somebody closes the connection. -/
structure Handles (slot : Slot) (s : Socket) (result : Result) (texts : List Bytes) : Prop where
  /-- The texts are added to the frames. -/
  posts : Posts s texts result.2.2
  /-- They are what was in the slot, or nothing. -/
  fate : Fate slot result.2.1 texts
  /-- The text is lost only by a call that fails. -/
  kept : (∀ cause, result.1 ≠ .error cause) → texts ++ result.2.1.texts = slot.texts
  /-- While nobody closes the connection it is not lost. -/
  active : s.phase = .active → texts ++ result.2.1.texts = slot.texts
  /-- Once somebody closes the connection it is not handed over. -/
  silent : s.phase ≠ .active → texts = []

/-- **Emptying the slot.** If the call is done, the text has been handed over; if it has to wait, the text is where
    it was. -/
theorem empty_handles (slot : Slot) (s : Socket) (hfits : ∀ text ∈ slot, Fits text) :
    ∃ texts, Handles slot s (empty slot s) texts ∧
      ((empty slot s).1 = .ok () → (empty slot s).2.1 = none) := by
  cases slot with
  | none => exact ⟨[], ⟨Posts.refl s, .stays none, fun _ => rfl, fun _ => rfl, fun _ => rfl⟩, fun _ => rfl⟩
  | some text =>
    obtain ⟨hprepared, hkeeps⟩ := s.prepare_posts
    have waits : Handles (some text) s (s.prepare.1, some text, s.prepare.2) [] :=
      ⟨hprepared, .stays _, fun _ => rfl, fun _ => rfl, fun _ => rfl⟩
    unfold empty
    rcases hprepare : s.prepare with ⟨value | cause | _, t⟩
    all_goals rw [hprepare] at hprepared hkeeps waits
    · obtain ⟨texts, hsubmit, htexts⟩ := t.submit_posts (hfits text rfl)
      have hposts := hprepared.trans hsubmit
      rcases htexts with ⟨hactive, rfl⟩ | ⟨hno, rfl, cause, hcause⟩
      · have hactive := hkeeps.active.mp hactive
        exact ⟨_, ⟨hposts, .posted text, fun _ => rfl, fun _ => rfl, fun hno => absurd hactive hno⟩, fun _ => rfl⟩
      · have hno : s.phase ≠ .active := fun hactive => hno (hkeeps.active.mpr hactive)
        exact ⟨_, ⟨hposts, .lost text, fun hfine => absurd hcause (hfine cause), fun hactive => absurd hactive hno,
          fun _ => rfl⟩, fun _ => rfl⟩
    · exact ⟨[], waits, fun h => by cases h⟩
    · exact ⟨[], waits, fun h => by cases h⟩

/-- **Putting a text into the slot.** It is there if the call is done, and what was there before has been handed over.
    There was nothing, if somebody closes the connection. -/
theorem feed_handles (slot : Slot) (s : Socket) (text : String) (hfits : ∀ text ∈ slot, Fits text) :
    (feed slot s text).1 = .ok () ∧ (feed slot s text).2.1 = some text ∧
        Posts s slot.texts (feed slot s text).2.2 ∧ (s.phase ≠ .active → slot.texts = []) ∨
      (feed slot s text).1 ≠ .ok () ∧ ∃ texts, Handles slot s (feed slot s text) texts := by
  obtain ⟨texts, hhandles, hnone⟩ := empty_handles slot s hfits
  unfold feed
  rcases hempty : empty slot s with ⟨value | cause | _, slot', t⟩
  all_goals rw [hempty] at hhandles hnone
  · have hkept := hhandles.kept (fun _ h => by cases h)
    have hslot := hnone rfl
    simp only at hslot
    subst hslot
    rw [show texts = slot.texts by simpa [Slot.texts] using hkept] at hhandles
    exact Or.inl ⟨rfl, rfl, hhandles.posts, hhandles.silent⟩
  · exact Or.inr ⟨(fun h => by cases h), texts, hhandles⟩
  · exact Or.inr ⟨(fun h => by cases h), texts, hhandles⟩

/-- **Flushing.** If the call is done, the text has been handed over and is on the stream. -/
theorem flush_handles (slot : Slot) (s : Socket) (hfits : ∀ text ∈ slot, Fits text) :
    ∃ texts, Handles slot s (flush slot s) texts ∧
      ((flush slot s).1 = .ok () → (flush slot s).2.1 = none ∧
        ((flush slot s).2.2.outbox = [] ∨ (flush slot s).2.2.wire.ending = .dead)) := by
  obtain ⟨texts, hhandles, hnone⟩ := empty_handles slot s hfits
  unfold flush
  rcases hempty : empty slot s with ⟨value | cause | _, slot', t⟩
  all_goals rw [hempty] at hhandles hnone
  · obtain ⟨hsettle, _, hdone⟩ := t.settle_posts
    have hkept := hhandles.kept fun _ h => by cases h
    exact ⟨texts, ⟨hhandles.posts.trans_nil hsettle, hhandles.fate, fun _ => hkept, hhandles.active, hhandles.silent⟩,
      fun h => ⟨hnone rfl, hdone h⟩⟩
  · exact ⟨texts, hhandles, fun h => by cases h⟩
  · exact ⟨texts, hhandles, fun h => by cases h⟩

/-- **Closing.** The text in the slot goes out in front of the close frame. -/
theorem close_handles (slot : Slot) (s : Socket) (hfits : ∀ text ∈ slot, Fits text) :
    ∃ texts, Handles slot s (close slot s) texts := by
  obtain ⟨texts, hhandles, hnone⟩ := empty_handles slot s hfits
  unfold close
  rcases hempty : empty slot s with ⟨value | cause | _, slot', t⟩
  all_goals rw [hempty] at hhandles hnone
  · have hkept := hhandles.kept fun _ h => by cases h
    exact ⟨texts, hhandles.posts.trans_nil t.finish_posts, hhandles.fate, fun _ => hkept, hhandles.active,
      hhandles.silent⟩
  · exact ⟨texts, hhandles⟩
  · exact ⟨texts, hhandles⟩

/-! ## What stays the same -/

theorem empty_keeps (slot : Slot) (s : Socket) : Keeps s (empty slot s).2.2 := by
  cases slot with
  | none => exact Keeps.refl s
  | some text =>
    obtain ⟨_, hprepared⟩ := s.prepare_posts
    unfold empty
    rcases hprepare : s.prepare with ⟨value | cause | _, t⟩
    all_goals rw [hprepare] at hprepared
    · exact hprepared.trans (t.submit_keeps text)
    · exact hprepared
    · exact hprepared

/-- Putting a text into the slot leaves alone what belongs to reading. -/
theorem feed_keeps (slot : Slot) (s : Socket) (text : String) : Keeps s (feed slot s text).2.2 := by
  have hkeeps := empty_keeps slot s
  unfold feed
  rcases hempty : empty slot s with ⟨value | cause | _, slot', t⟩
  all_goals
    rw [hempty] at hkeeps
    exact hkeeps

/-- Flushing leaves alone what belongs to reading. -/
theorem flush_keeps (slot : Slot) (s : Socket) : Keeps s (flush slot s).2.2 := by
  have hkeeps := empty_keeps slot s
  unfold flush
  rcases hempty : empty slot s with ⟨value | cause | _, slot', t⟩
  all_goals rw [hempty] at hkeeps
  · exact hkeeps.trans t.settle_posts.2.1
  · exact hkeeps
  · exact hkeeps

/-- Closing takes nothing back from the stream. -/
theorem close_advances (slot : Slot) (s : Socket) : Advances s (close slot s).2.2 := by
  have hadvances := (empty_keeps slot s).advances
  unfold close
  rcases hempty : empty slot s with ⟨value | cause | _, slot', t⟩
  all_goals rw [hempty] at hadvances
  · exact hadvances.trans t.finish_posts.advances
  · exact hadvances
  · exact hadvances

end Slot

end TextSocket.Socket
