import TextSocket.Text.Utf8

/-!
# `Proofs.Text.Utf8` — no part of a text is refused

A fragment of a text may end anywhere, also within a character, and is checked as soon as it is there. The check
must not refuse what a later fragment completes. It does not: **the UTF-8 form of a text leads from between two
characters back to between two characters** (`run?_ofText`), so every part of it from the front is accepted
(`run?_of_ofText_eq_append`).

## Contents

* `first?_ofNat`, `next?_ofNat` — one byte, in numbers;
* `run?_twoBytes`, `run?_threeBytes`, `run?_fourBytes`, `run?_utf8EncodeChar` — one character;
* `run?_ofText`, `run?_of_ofText_eq_append` — texts and their parts.
-/

namespace TextSocket.Text.Utf8

/-! ## One byte -/

theorem toNat_ofNat {n : Nat} (h : n < 256) : (UInt8.ofNat n).toNat = n := by
  rw [UInt8.toNat_ofNat']
  exact Nat.mod_eq_of_lt h

/-- The first byte of a character, in numbers. -/
theorem first?_ofNat {n : Nat} (h : n < 256) :
    first? (UInt8.ofNat n) =
      if n < 128 then some boundary
      else if n < 194 then none
      else if n < 224 then some ⟨1, 128, 191⟩
      else if n = 224 then some ⟨2, 160, 191⟩
      else if n = 237 then some ⟨2, 128, 159⟩
      else if n < 240 then some ⟨2, 128, 191⟩
      else if n = 240 then some ⟨3, 144, 191⟩
      else if n < 244 then some ⟨3, 128, 191⟩
      else if n = 244 then some ⟨3, 128, 143⟩
      else none := by
  unfold first?
  simp only [UInt8.lt_iff_toNat_lt, ← UInt8.toNat_inj, toNat_ofNat h]
  rfl

/-- A further byte of a character, in numbers. -/
theorem next?_ofNat {missing n : Nat} {least greatest : UInt8} (h : n < 256) (hleast : least.toNat ≤ n)
    (hgreatest : n ≤ greatest.toNat) :
    next? ⟨missing + 1, least, greatest⟩ (UInt8.ofNat n) =
      some (if missing = 0 then boundary else ⟨missing, 128, 191⟩) := by
  have within : least ≤ UInt8.ofNat n ∧ UInt8.ofNat n ≤ greatest := by
    simp only [UInt8.le_iff_toNat_le, toNat_ofNat h]
    exact ⟨hleast, hgreatest⟩
  unfold next?
  rw [if_neg (Nat.succ_ne_zero missing), if_pos within]
  cases missing with
  | zero => rfl
  | succ missing => rfl

/-! ## One character -/

theorem run?_cons {s t : State} {b : UInt8} (h : next? s b = some t) (bytes : Bytes) :
    run? s (b :: bytes) = run? t bytes := by
  unfold run?
  rw [List.foldlM_cons, h]
  rfl

theorem run?_append (s : State) (bytes more : Bytes) :
    run? s (bytes ++ more) = (run? s bytes).bind fun t => run? t more :=
  List.foldlM_append

/-- The last byte of a character. -/
theorem run?_one {v : Nat} {least greatest : UInt8} (hleast : least.toNat ≤ v % 64 + 128)
    (hgreatest : v % 64 + 128 ≤ greatest.toNat) :
    run? ⟨1, least, greatest⟩ [UInt8.ofNat (v % 64 + 128)] = some boundary := by
  rw [run?_cons (next?_ofNat (by omega) hleast hgreatest)]
  rfl

/-- The last two bytes of a character. -/
theorem run?_two {v : Nat} {least greatest : UInt8} (hleast : least.toNat ≤ v / 64 % 64 + 128)
    (hgreatest : v / 64 % 64 + 128 ≤ greatest.toNat) :
    run? ⟨2, least, greatest⟩ [UInt8.ofNat (v / 64 % 64 + 128), UInt8.ofNat (v % 64 + 128)]
      = some boundary := by
  have least : (128 : UInt8).toNat = 128 := rfl
  have greatest : (191 : UInt8).toNat = 191 := rfl
  rw [run?_cons (next?_ofNat (by omega) hleast hgreatest)]
  exact run?_one (by omega) (by omega)

/-- The last three bytes of a character. -/
theorem run?_three {v : Nat} {least greatest : UInt8} (hleast : least.toNat ≤ v / 4096 % 64 + 128)
    (hgreatest : v / 4096 % 64 + 128 ≤ greatest.toNat) :
    run? ⟨3, least, greatest⟩
      [UInt8.ofNat (v / 4096 % 64 + 128), UInt8.ofNat (v / 64 % 64 + 128), UInt8.ofNat (v % 64 + 128)]
      = some boundary := by
  have least : (128 : UInt8).toNat = 128 := rfl
  have greatest : (191 : UInt8).toNat = 191 := rfl
  rw [run?_cons (next?_ofNat (by omega) hleast hgreatest)]
  exact run?_two (by omega) (by omega)

/-- A character behind its first byte. -/
theorem run?_first {n : Nat} {state : State} (hlead : first? (UInt8.ofNat n) = some state) (bytes : Bytes) :
    run? boundary (UInt8.ofNat n :: bytes) = run? state bytes :=
  run?_cons (s := boundary) hlead bytes

/-- A character of two bytes. -/
theorem run?_twoBytes {v : Nat} (hlong : 0x7f < v) (hshort : v ≤ 0x7ff) :
    run? boundary [UInt8.ofNat (v / 64 % 32 + 192), UInt8.ofNat (v % 64 + 128)] = some boundary := by
  have b128 : (128 : UInt8).toNat = 128 := rfl
  have b191 : (191 : UInt8).toNat = 191 := rfl
  have hfirst : first? (UInt8.ofNat (v / 64 % 32 + 192)) = some ⟨1, 128, 191⟩ := by
    rw [first?_ofNat (by omega), if_neg (by omega), if_neg (by omega), if_pos (by omega)]
  rw [run?_first hfirst]
  exact run?_one (by omega) (by omega)

/-- A character of three bytes. It is not written longer than it need be, and it is no surrogate: that bounds its
    second byte behind two of the first bytes. -/
theorem run?_threeBytes {v : Nat} (hlong : 0x7ff < v) (hshort : v ≤ 0xffff) (hvalid : v < 0xd800 ∨ 0xdfff < v) :
    run? boundary [UInt8.ofNat (v / 4096 % 16 + 224), UInt8.ofNat (v / 64 % 64 + 128), UInt8.ofNat (v % 64 + 128)]
      = some boundary := by
  have b128 : (128 : UInt8).toNat = 128 := rfl
  have b159 : (159 : UInt8).toNat = 159 := rfl
  have b160 : (160 : UInt8).toNat = 160 := rfl
  have b191 : (191 : UInt8).toNat = 191 := rfl
  have hlead : v / 4096 % 16 + 224 < 256 := by omega
  have hfirst := first?_ofNat hlead
  rw [if_neg (by omega), if_neg (by omega), if_neg (by omega)] at hfirst
  -- what the first byte says of the second: no short forms, no surrogates, or nothing
  by_cases hlow : v / 4096 = 0
  · rw [if_pos (by omega)] at hfirst
    rw [run?_first hfirst]
    exact run?_two (by omega) (by omega)
  · by_cases hhigh : v / 4096 = 13
    · rw [if_neg (by omega), if_pos (by omega)] at hfirst
      rw [run?_first hfirst]
      exact run?_two (by omega) (by omega)
    · rw [if_neg (by omega), if_neg (by omega), if_pos (by omega)] at hfirst
      rw [run?_first hfirst]
      exact run?_two (by omega) (by omega)

/-- A character of four bytes. It is not written longer than it need be, and it is none beyond the last one: that
    bounds its second byte behind two of the first bytes. -/
theorem run?_fourBytes {v : Nat} (hlong : 0xffff < v) (hvalid : v < 0x110000) :
    run? boundary [UInt8.ofNat (v / 262144 % 8 + 240), UInt8.ofNat (v / 4096 % 64 + 128),
      UInt8.ofNat (v / 64 % 64 + 128), UInt8.ofNat (v % 64 + 128)] = some boundary := by
  have b128 : (128 : UInt8).toNat = 128 := rfl
  have b143 : (143 : UInt8).toNat = 143 := rfl
  have b144 : (144 : UInt8).toNat = 144 := rfl
  have b191 : (191 : UInt8).toNat = 191 := rfl
  have hlead : v / 262144 % 8 + 240 < 256 := by omega
  have hfirst := first?_ofNat hlead
  rw [if_neg (by omega), if_neg (by omega), if_neg (by omega), if_neg (by omega), if_neg (by omega),
    if_neg (by omega)] at hfirst
  -- what the first byte says of the second: no short forms, nothing beyond the last character, or nothing
  by_cases hlow : v / 262144 = 0
  · rw [if_pos (by omega)] at hfirst
    rw [run?_first hfirst]
    exact run?_three (by omega) (by omega)
  · by_cases hhigh : v / 262144 = 4
    · rw [if_neg (by omega), if_neg (by omega), if_pos (by omega)] at hfirst
      rw [run?_first hfirst]
      exact run?_three (by omega) (by omega)
    · rw [if_neg (by omega), if_pos (by omega)] at hfirst
      rw [run?_first hfirst]
      exact run?_three (by omega) (by omega)

/-- **A character is accepted.** -/
theorem run?_utf8EncodeChar (c : Char) : run? boundary (String.utf8EncodeChar c) = some boundary := by
  have hvalid : c.val.toNat < 0xd800 ∨ 0xdfff < c.val.toNat ∧ c.val.toNat < 0x110000 := c.valid
  unfold String.utf8EncodeChar
  generalize c.val.toNat = v at hvalid ⊢
  simp only
  split
  · have hfirst : first? (UInt8.ofNat v) = some boundary := by
      rw [first?_ofNat (by omega), if_pos (by omega)]
    rw [run?_first hfirst]
    rfl
  · split
    · exact run?_twoBytes (by omega) (by omega)
    · split
      · exact run?_threeBytes (by omega) (by omega) (by omega)
      · exact run?_fourBytes (by omega) (by omega)

/-! ## Texts -/

theorem run?_flatMap (cs : List Char) :
    run? boundary (cs.flatMap String.utf8EncodeChar) = some boundary := by
  induction cs with
  | nil => rfl
  | cons c cs ih => rw [List.flatMap_cons, run?_append, run?_utf8EncodeChar, Option.bind_some, ih]

/-- **A text is accepted.** -/
theorem run?_ofText (text : String) : run? boundary (Bytes.ofText text) = some boundary := by
  rw [← String.ofList_toList (s := text), Bytes.ofText_ofList]
  exact run?_flatMap text.toList

/-- **Every part of a text from the front is accepted.** -/
theorem run?_of_ofText_eq_append {text : String} {front back : Bytes} (h : Bytes.ofText text = front ++ back) :
    ∃ state, run? boundary front = some state := by
  have whole := run?_ofText text
  rw [h, run?_append] at whole
  cases hfront : run? boundary front with
  | none => rw [hfront] at whole; cases whole
  | some state => exact ⟨state, rfl⟩

end TextSocket.Text.Utf8
