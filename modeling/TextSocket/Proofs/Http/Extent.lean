import Mathlib.Data.List.TakeWhile
import TextSocket.Http.Request
import TextSocket.Proofs.Http.Head

/-!
# `Proofs.Http.Extent` — how far a head is read

Every reader of a part of a head takes a stretch of bytes from the front and **does not look behind it**
(`Takes`): it would have found the same whatever stood there. Taking a stretch is kept when one reader goes on behind
another, so the head of a request is such a stretch as well (`takes_split`, `parse_extent`). Only skipping blank lines
looks further, at the byte that ends it, and that byte belongs to the method.

A head is over with two line feeds; a carriage return may be in front of each of them (`EndsLoosely`).

## Contents

* `Takes`, `Takes.andThen`, `Takes.map`, `Takes.skip` — taking a stretch;
* `takes_readToken`, `takes_readTarget`, `takes_readVersion`, `takes_readLineEnd` — the parts of a start line;
* `EndsLoosely`, `takes_readField`, `takes_readFields` — header lines;
* `takes_split`, `parse_extent` — the head of a request.
-/

namespace TextSocket.Http.Head

/-! ## Taking a stretch -/

section Takes

variable {α β : Type}

/-- **A reader takes a stretch** of a certain shape: what it finds is at the front of the bytes, and it finds the same
    whatever stands behind. -/
def Takes (read : Bytes → Scan α) (shape : Bytes → Prop) : Prop :=
  ∀ ⦃bytes : Bytes⦄ ⦃value : α⦄ ⦃rest : Bytes⦄, read bytes = .found value rest →
    ∃ part, shape part ∧ bytes = part ++ rest ∧ ∀ more, read (part ++ more) = .found value more

variable {read : Bytes → Scan α} {next : α → Bytes → Scan β} {shape after whole : Bytes → Prop}

theorem andThen_eq_found {scan : Scan α} {value : β} {rest : Bytes} (h : scan.andThen next = .found value rest) :
    ∃ first behind, scan = .found first behind ∧ next first behind = .found value rest := by
  cases scan with
  | found first behind => exact ⟨first, behind, rfl, h⟩
  | unfinished => cases h
  | fault cause => cases h

/-- Two stretches that are taken one behind the other are one. -/
theorem Takes.andThen (hread : Takes read shape) (hnext : ∀ first, Takes (next first) after)
    (hshape : ∀ {part more}, shape part → after more → whole (part ++ more)) :
    Takes (fun bytes => (read bytes).andThen next) whole := by
  intro bytes value rest h
  obtain ⟨first, behind, hfirst, hbehind⟩ := andThen_eq_found h
  obtain ⟨part, hpart, rfl, hagain⟩ := hread hfirst
  obtain ⟨part', hpart', rfl, hagain'⟩ := hnext first hbehind
  refine ⟨part ++ part', hshape hpart hpart', (List.append_assoc part part' rest).symm, fun more => ?_⟩
  rw [List.append_assoc]
  simp only [hagain, Scan.andThen, hagain']

theorem takes_found (value : α) : Takes (Scan.found value) (· = []) := by
  intro bytes found rest h
  cases h
  exact ⟨[], rfl, rfl, fun _ => rfl⟩

theorem Takes.map (hread : Takes read shape) (change : α → β) : Takes (fun bytes => (read bytes).map change) shape := by
  apply hread.andThen fun first => takes_found (change first)
  rintro part more hpart rfl
  rwa [List.append_nil]

theorem begins_of_ne {bytes : Bytes} (hnil : bytes = [] → False) (hlf : ∀ more, bytes = 10 :: more → False)
    (hcr : ∀ more, bytes = 13 :: more → False) : Begins bytes := by
  obtain ⟨b, more, rfl⟩ := List.exists_cons_of_ne_nil hnil
  refine ⟨b, more, rfl, ?_, ?_⟩
  · rintro rfl
    exact hlf more rfl
  · rintro rfl
    exact hcr more rfl

/-- Blank lines are skipped up to the first byte that belongs to none. -/
theorem skipBlankLines_found {bytes rest : Bytes} (h : skipBlankLines bytes = .found () rest) :
    ∃ blank, bytes = blank ++ rest ∧ ∀ {more}, Begins more → skipBlankLines (blank ++ more) = .found () more := by
  induction bytes using skipBlankLines.induct with
  | case1 => cases h
  | case2 bytes ih =>
    obtain ⟨blank, rfl, hagain⟩ := ih h
    exact ⟨10 :: blank, rfl, fun hmore => hagain hmore⟩
  | case3 bytes ih =>
    obtain ⟨blank, rfl, hagain⟩ := ih h
    exact ⟨13 :: 10 :: blank, rfl, fun hmore => hagain hmore⟩
  | case4 => cases h
  | case5 more hend hpair =>
    have hfault : skipBlankLines (13 :: more) = .fault .newLine := by
      unfold skipBlankLines
      split <;> simp_all
    rw [hfault] at h
    cases h
  | case6 bytes hnil hlf hpair hcr hlone =>
    rw [skipBlankLines_begins (begins_of_ne hnil hlf hlone)] at h
    cases h
    exact ⟨[], rfl, fun hmore => skipBlankLines_begins hmore⟩

/-- Blank lines in front are taken with the stretch behind them. -/
theorem Takes.skip {next : Unit → Bytes → Scan β} (hnext : Takes (next ()) after)
    (hbegins : ∀ {part}, after part → Begins part) (hshape : ∀ {blank part}, after part → whole (blank ++ part)) :
    Takes (fun bytes => (skipBlankLines bytes).andThen next) whole := by
  intro bytes value rest h
  obtain ⟨⟨⟩, behind, hskip, hbehind⟩ := andThen_eq_found h
  obtain ⟨blank, rfl, hagain⟩ := skipBlankLines_found hskip
  obtain ⟨part, hpart, rfl, hagain'⟩ := hnext hbehind
  refine ⟨blank ++ part, hshape hpart, (List.append_assoc blank part rest).symm, fun more => ?_⟩
  rw [List.append_assoc]
  simp only [hagain ((hbegins hpart).append more), Scan.andThen, hagain']

end Takes

/-! ## Start lines -/

theorem takeWhile_append_of_drop {p : UInt8 → Bool} {bytes back : Bytes}
    (h : bytes.drop (bytes.takeWhile p).length = back) : bytes.takeWhile p ++ back = bytes := by
  rw [← h]
  exact List.prefix_iff_eq_append.1 (List.takeWhile_prefix p)

theorem takes_readToken : Takes readToken Begins := by
  intro bytes token rest h
  have htoken : ∀ b ∈ bytes.takeWhile Ascii.isToken, Ascii.isToken b = true := fun b hb => List.mem_takeWhile_imp hb
  simp only [readToken] at h
  split at h
  · cases h
  · next back hback =>
    split at h
    · cases h
    · next hne =>
      have hne : bytes.takeWhile Ascii.isToken ≠ [] := by simpa using hne
      cases h
      refine ⟨bytes.takeWhile Ascii.isToken ++ [32], (begins_of_isToken hne htoken).append _, ?_, fun more => ?_⟩
      · rw [List.append_assoc]
        exact (takeWhile_append_of_drop hback).symm
      · rw [List.append_assoc]
        exact readToken_append hne htoken more
  · cases h

theorem takes_readTarget : Takes readTarget fun _ => True := by
  intro bytes target rest h
  have htarget : ∀ b ∈ bytes.takeWhile isTargetByte, isTargetByte b = true := fun b hb => List.mem_takeWhile_imp hb
  simp only [readTarget] at h
  split at h
  · cases h
  · next back hback =>
    split at h
    · cases h
    · next hok =>
      rw [Bool.or_eq_true, not_or, List.isEmpty_iff, Option.isNone_iff_eq_none] at hok
      cases h
      refine ⟨bytes.takeWhile isTargetByte ++ [32], trivial, ?_, fun more => ?_⟩
      · rw [List.append_assoc]
        exact (takeWhile_append_of_drop hback).symm
      · rw [List.append_assoc]
        exact readTarget_append hok.1 htarget (Option.isSome_iff_ne_none.2 hok.2) more
  · cases h

theorem takes_readVersion : Takes readVersion fun _ => True := by
  intro bytes minor rest h
  unfold readVersion at h
  split at h
  · next hlength =>
    have hrest : ∀ more, (bytes.take 8 ++ more).take 8 = bytes.take 8 ∧ (bytes.take 8 ++ more).drop 8 = more := by
      have height : (bytes.take 8).length = 8 := by rw [List.length_take]; omega
      exact fun more => ⟨List.take_left' height, List.drop_left' height⟩
    have henough : ∀ more, 8 ≤ (bytes.take 8 ++ more).length := by
      intro more
      rw [List.length_append, List.length_take]
      omega
    split at h
    · next hzero =>
      cases h
      refine ⟨bytes.take 8, trivial, (List.take_append_drop 8 bytes).symm, fun more => ?_⟩
      rw [readVersion, if_pos (henough more), (hrest more).1, (hrest more).2, if_pos hzero]
    · next hzero =>
      split at h
      · next hone =>
        cases h
        refine ⟨bytes.take 8, trivial, (List.take_append_drop 8 bytes).symm, fun more => ?_⟩
        rw [readVersion, if_pos (henough more), (hrest more).1, (hrest more).2, if_neg hzero, if_pos hone]
      · cases h
  · split at h <;> cases h

/-- The end of a line: a line feed, with a carriage return in front of it or without. -/
def IsLineEnd (part : Bytes) : Prop := part = [10] ∨ part = [13, 10]

/-- Bytes that end in the end of a line. -/
def EndsLine (part : Bytes) : Prop := ∃ last, IsLineEnd last ∧ last <:+ part

/-- Bytes that end in two ends of lines, of either kind. -/
def EndsLoosely (bytes : Bytes) : Prop :=
  ∃ first second, IsLineEnd first ∧ IsLineEnd second ∧ first ++ second <:+ bytes

theorem EndsLoosely.append {bytes : Bytes} (h : EndsLoosely bytes) (front : Bytes) : EndsLoosely (front ++ bytes) := by
  obtain ⟨first, second, hfirst, hsecond, hends⟩ := h
  exact ⟨first, second, hfirst, hsecond, hends.trans (List.suffix_append front bytes)⟩

/-- A line that is followed by the blank line. -/
theorem EndsLine.append {part more : Bytes} (h : EndsLine part)
    (hmore : ∀ {first}, IsLineEnd first → EndsLoosely (first ++ more)) : EndsLoosely (part ++ more) := by
  obtain ⟨last, hlast, front, rfl⟩ := h
  rw [List.append_assoc]
  exact (hmore hlast).append front

theorem takes_readLineEnd (cause : HeadFault) : Takes (readLineEnd cause) IsLineEnd := by
  intro bytes value rest h
  unfold readLineEnd at h
  split at h
  · cases h
  · cases h
    exact ⟨[10], .inl rfl, rfl, fun _ => rfl⟩
  · cases h
    exact ⟨[13, 10], .inr rfl, rfl, fun _ => rfl⟩
  · cases h
  · cases h

/-! ## Header lines -/

/-- The end of a line ends a value. -/
theorem IsLineEnd.stops {part : Bytes} (h : IsLineEnd part) :
    ∃ stop back, part = stop :: back ∧ isFieldByte stop = false := by
  rcases h with rfl | rfl
  · exact ⟨10, [], rfl, by decide⟩
  · exact ⟨13, [10], rfl, by decide⟩

/-- Only what stands in front of the first byte that is kept is dropped. -/
theorem dropWhile_takeWhile_append {p : UInt8 → Bool} {bytes part rest : Bytes} (hne : part ≠ [])
    (h : bytes.dropWhile p = part ++ rest) (more : Bytes) :
    (bytes.takeWhile p ++ (part ++ more)).dropWhile p = part ++ more := by
  obtain ⟨b, part, rfl⟩ := List.exists_cons_of_ne_nil hne
  have hkept : p b = false := by
    have hfirst := List.head?_dropWhile_not p bytes
    rw [h] at hfirst
    exact hfirst
  rw [List.dropWhile_append_of_pos fun _ hb => List.mem_takeWhile_imp hb]
  exact List.dropWhile_cons_of_neg (Bool.eq_false_iff.1 hkept)

theorem takes_readFieldValue : Takes readFieldValue EndsLine := by
  intro bytes value rest h
  obtain ⟨line, hline, hback, hagain⟩ := (takes_readLineEnd .headerValue).map _ h
  obtain ⟨stop, back, rfl, hstop⟩ := hline.stops
  -- blanks, the value, and the end of the line
  generalize hkept : (bytes.dropWhile Ascii.isBlank).takeWhile isFieldByte = kept at hback hagain
  have hbytes : bytes.dropWhile Ascii.isBlank = kept ++ stop :: back ++ rest := by
    rw [List.append_assoc, ← hkept]
    exact (takeWhile_append_of_drop (hkept ▸ hback)).symm
  have hfield : ∀ b ∈ kept, isFieldByte b = true := hkept ▸ fun b hb => List.mem_takeWhile_imp hb
  refine ⟨bytes.takeWhile Ascii.isBlank ++ (kept ++ stop :: back), ⟨_, hline, ?_⟩, ?_, fun more => ?_⟩
  · rw [← List.append_assoc]
    exact List.suffix_append _ _
  · rw [List.append_assoc, ← hbytes, List.takeWhile_append_dropWhile]
  · have hdropped := dropWhile_takeWhile_append (by simp) hbytes more
    have htaken : (kept ++ stop :: back ++ more).takeWhile isFieldByte = kept := by
      rw [List.append_assoc]
      exact takeWhile_stop hfield hstop
    rw [List.append_assoc]
    simp only [readFieldValue, hdropped, htaken]
    rw [List.append_assoc, List.drop_left]
    exact hagain more

theorem takes_readField : Takes readField fun part => Begins part ∧ EndsLine part := by
  intro bytes field rest h
  have htoken : ∀ b ∈ bytes.takeWhile Ascii.isToken, Ascii.isToken b = true := fun b hb => List.mem_takeWhile_imp hb
  simp only [readField] at h
  split at h
  · cases h
  · next back hback =>
    split at h
    · cases h
    · next hne =>
      obtain ⟨part, ⟨last, hlast, front, rfl⟩, rfl, hagain⟩ := takes_readFieldValue.map _ h
      have hbytes := takeWhile_append_of_drop hback
      generalize bytes.takeWhile Ascii.isToken = name at hbytes htoken hne hagain
      rw [List.isEmpty_iff] at hne
      refine ⟨name ++ 58 :: (front ++ last), ⟨Begins.append ?_ _, last, hlast, ?_⟩, ?_, fun more => ?_⟩
      · exact begins_of_isToken hne htoken
      · exact ⟨name ++ 58 :: front, by simp⟩
      · simpa using hbytes.symm
      · have htaken : (name ++ 58 :: (front ++ last ++ more)).takeWhile Ascii.isToken = name :=
          takeWhile_stop htoken (by decide)
        rw [List.append_assoc, List.cons_append]
        simp only [readField, htaken, List.drop_left, List.isEmpty_iff, if_neg hne]
        exact hagain more
  · cases h

theorem readFields_lineEnd {part : Bytes} (h : IsLineEnd part) (left : Nat) (more : Bytes) :
    readFields left (part ++ more) = .found [] more := by
  rcases h with rfl | rfl <;> · unfold readFields; rfl

/-- What is found is the blank line, or a header line and what is found behind it. -/
theorem readFields_found {left : Nat} {bytes rest : Bytes} {fields : List (Bytes × Bytes)}
    (h : readFields left bytes = .found fields rest) :
    match fields with
    | [] => ∃ part, IsLineEnd part ∧ bytes = part ++ rest
    | field :: fields => ∃ left' behind, left = left' + 1 ∧ readField bytes = .found field behind ∧
        readFields left' behind = .found fields rest := by
  by_cases hbegins : Begins bytes
  · rw [readFields_begins hbegins] at h
    obtain ⟨field, behind, hfield, hbehind⟩ := andThen_eq_found h
    cases left with
    | zero => cases hbehind
    | succ left =>
      obtain ⟨fields, rest, hfields, hfound⟩ := andThen_eq_found hbehind
      cases hfound
      exact ⟨left, behind, rfl, hfield, hfields⟩
  · unfold readFields at h
    split at h
    case h_2 => cases h; exact ⟨[10], .inl rfl, rfl⟩
    case h_3 => cases h; exact ⟨[13, 10], .inr rfl, rfl⟩
    case h_6 hnil hlf _ _ hcr => exact absurd (begins_of_ne hnil hlf hcr) hbegins
    all_goals cases h

/-- **Header lines are taken with the blank line behind them.** -/
theorem takes_readFields (left : Nat) :
    Takes (readFields left) fun part => ∀ {first}, IsLineEnd first → EndsLoosely (first ++ part) := by
  intro bytes fields rest h
  induction fields generalizing left bytes with
  | nil =>
    obtain ⟨part, hpart, rfl⟩ := readFields_found h
    exact ⟨part, fun hfirst => ⟨_, part, hfirst, hpart, List.suffix_rfl⟩, rfl, readFields_lineEnd hpart left⟩
  | cons field fields ih =>
    obtain ⟨left, behind, rfl, hfield, hfields⟩ := readFields_found h
    obtain ⟨line, ⟨hbegins, hends⟩, rfl, hagain⟩ := takes_readField hfield
    obtain ⟨part, hpart, rfl, hagain'⟩ := ih left hfields
    refine ⟨line ++ part, fun _ => (hends.append hpart).append _, (List.append_assoc line part rest).symm, ?_⟩
    intro more
    rw [List.append_assoc, readFields_begins (hbegins.append _), hagain]
    simp only [Scan.andThen, hagain']
    rfl

end TextSocket.Http.Head

namespace TextSocket.Http.Request

open Head (Takes Begins EndsLoosely)

/-! ## Requests -/

/-- **The head of a request is taken apart without a look behind it.** It ends in two ends of lines. -/
theorem takes_split : Takes split EndsLoosely := by
  have hfields : ∀ method target, Takes (fun bytes => (Head.readFields fieldLimit bytes).map
      fun lines => (⟨method, target, lines⟩ : Parts)) _ := fun _ _ => (Head.takes_readFields fieldLimit).map _
  have hlines : ∀ method target, Takes (fun bytes => (Head.readLineEnd .newLine bytes).andThen fun _ bytes =>
      (Head.readFields fieldLimit bytes).map fun lines => (⟨method, target, lines⟩ : Parts)) EndsLoosely :=
    fun method target => (Head.takes_readLineEnd .newLine).andThen (fun _ => hfields method target)
      fun hfirst hpart => hpart hfirst
  have hversion : ∀ method target, Takes _ EndsLoosely := fun method target =>
    Head.takes_readVersion.andThen (fun _ => hlines method target) fun _ h => h.append _
  have htarget : ∀ method, Takes _ EndsLoosely := fun method =>
    Head.takes_readTarget.andThen (fun target => hversion method target) fun _ h => h.append _
  have hmethod : Takes _ fun part => Begins part ∧ EndsLoosely part :=
    Head.takes_readToken.andThen htarget fun hbegins h => ⟨hbegins.append _, h.append _⟩
  exact Takes.skip hmethod And.left fun h => h.2.append _

/-- **A request is read from a stretch at the front of the bytes**, and from this stretch whatever stands behind. -/
theorem parse_extent {bytes rest : Bytes} {request : Request} (h : parse bytes = .ok (request, rest)) :
    ∃ head, EndsLoosely head ∧ bytes = head ++ rest ∧ ∀ more, parse (head ++ more) = .ok (request, more) := by
  unfold parse at h
  split at h
  · cases h
  · cases h
  · next parts behind hsplit =>
    obtain ⟨head, hhead, rfl, hagain⟩ := takes_split hsplit
    split at h
    · next made hparts =>
      cases h
      refine ⟨head, hhead, rfl, fun more => ?_⟩
      simp only [parse, hagain, hparts]
    · cases h

end TextSocket.Http.Request
