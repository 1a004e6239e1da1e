import TextSocket.Base64
import TextSocket.Proofs.Text.Ascii

/-!
# `Proofs.Base64` — bytes in letters and back

**What is written is read back** (`decode?_encode`): three bytes are four times six bits, and the bits that fill up
the last group are zero. **Nothing else is read** (`decode?_eq_some_iff`), so a byte string has one written form. What is
written shows as text without blanks (`visible_encode`), so it can stand in a header value.

## Contents

* `value?_symbol`, `symbol_value?`, `symbol_ne_pad` — characters;
* `lastGroup?_one`, `lastGroup?_two`, `lastGroup?_three` — a group that is written is read;
* `encode_one`, `encode_two`, `encode_three`, `encode_of_lastGroup?` — a group that is read is written so;
* `decode?_encode`, `encode_of_decode?`, `decode?_eq_some_iff` — whole byte strings;
* `length_encode`, `visible_encode`, `isCharacter_encode` — what is written.
-/

namespace TextSocket.Base64

open Ascii (IsVisible)

/-! ## Characters -/

theorem value?_symbol : ∀ n < 64, value? (symbol n) = some n := by decide

theorem symbol_ne_pad : ∀ n < 64, symbol n ≠ pad := by decide

/-- A character has one value, and is the character of that value. -/
theorem symbol_value? {b : UInt8} {n : Nat} (h : value? b = some n) : n < 64 ∧ symbol n = b := by
  have table : ∀ k < 256, ∀ m ∈ value? (UInt8.ofNat k), m < 64 ∧ symbol m = UInt8.ofNat k := by decide +kernel
  have hb := table b.toNat b.toNat_lt
  rw [UInt8.ofNat_toNat] at hb
  exact hb n h

/-- A character that a written form may hold. -/
def IsCharacter (b : UInt8) : Prop := (value? b).isSome = true ∨ b = pad

theorem isCharacter_symbol {n : Nat} (h : n < 64) : IsCharacter (symbol n) := by
  refine Or.inl ?_
  rw [value?_symbol n h]
  rfl

theorem visible_pad : IsVisible pad := by decide

/-- Whatever its bits are said to be, a character shows. -/
theorem visible_symbol (n : Nat) : IsVisible (symbol n) := by
  have low : ∀ n < 63, IsVisible (symbol n) := by decide
  by_cases h : n < 63
  · exact low n h
  · have last : symbol n = 47 := by
      unfold symbol
      rw [if_neg (by omega), if_neg (by omega), if_neg (by omega), if_neg (by omega)]
    rw [last]
    decide

/-! ## Groups -/

theorem lastGroup?_one (a : UInt8) :
    lastGroup? (symbol (a.toNat * 16 / 64)) (symbol (a.toNat * 16 % 64)) pad pad = some [a] := by
  have ha := a.toNat_lt
  have value : (a.toNat * 16 / 64 * 64 + a.toNat * 16 % 64) / 16 = a.toNat := by omega
  simp only [lastGroup?, value?_symbol (a.toNat * 16 / 64) (by omega),
    value?_symbol (a.toNat * 16 % 64) (by omega), if_true, value, UInt8.ofNat_toNat]
  rw [if_pos (by omega)]

theorem lastGroup?_two (a b : UInt8) {n : Nat} (hn : n = (a.toNat * 256 + b.toNat) * 4) :
    lastGroup? (symbol (n / 4096)) (symbol (n / 64 % 64)) (symbol (n % 64)) pad = some [a, b] := by
  have ha := a.toNat_lt
  have hb := b.toNat_lt
  have bits : (n / 4096 * 64 + n / 64 % 64) * 64 + n % 64 = n := by omega
  have first : UInt8.ofNat (n / 1024) = a := by
    rw [show n / 1024 = a.toNat by omega, UInt8.ofNat_toNat]
  have second : UInt8.ofNat (n / 4) = b := by
    apply UInt8.toNat_inj.1
    rw [UInt8.toNat_ofNat']
    omega
  simp only [lastGroup?, value?_symbol (n / 4096) (by omega), value?_symbol (n / 64 % 64) (by omega),
    value?_symbol (n % 64) (by omega), if_true, if_neg (symbol_ne_pad (n % 64) (by omega)), bits, first, second]
  rw [if_pos (by omega)]

theorem lastGroup?_three (a b c : UInt8) {n : Nat} (hn : n = (a.toNat * 256 + b.toNat) * 256 + c.toNat) :
    lastGroup? (symbol (n / 262144)) (symbol (n / 4096 % 64)) (symbol (n / 64 % 64)) (symbol (n % 64))
      = some [a, b, c] := by
  have ha := a.toNat_lt
  have hb := b.toNat_lt
  have hc := c.toNat_lt
  have bits : ((n / 262144 * 64 + n / 4096 % 64) * 64 + n / 64 % 64) * 64 + n % 64 = n := by omega
  have first : UInt8.ofNat (n / 65536) = a := by
    rw [show n / 65536 = a.toNat by omega, UInt8.ofNat_toNat]
  have second : UInt8.ofNat (n / 256) = b := by
    apply UInt8.toNat_inj.1
    rw [UInt8.toNat_ofNat']
    omega
  have third : UInt8.ofNat n = c := by
    apply UInt8.toNat_inj.1
    rw [UInt8.toNat_ofNat']
    omega
  simp only [lastGroup?, value?_symbol (n / 262144) (by omega), value?_symbol (n / 4096 % 64) (by omega),
    value?_symbol (n / 64 % 64) (by omega), value?_symbol (n % 64) (by omega),
    if_neg (symbol_ne_pad (n % 64) (by omega)), bits, first, second, third]

/-- One byte, whose group is filled up with four bits. -/
theorem encode_one {x y : Nat} (hx : x < 64) (hy : y < 64) (hfill : y % 16 = 0) :
    encode [UInt8.ofNat ((x * 64 + y) / 16)] = [symbol x, symbol y, pad, pad] := by
  have byte : (UInt8.ofNat ((x * 64 + y) / 16)).toNat = (x * 64 + y) / 16 := by
    rw [UInt8.toNat_ofNat']
    omega
  simp only [encode, byte]
  rw [show (x * 64 + y) / 16 * 16 / 64 = x by omega, show (x * 64 + y) / 16 * 16 % 64 = y by omega]

/-- Two bytes, whose group is filled up with two bits. -/
theorem encode_two {x y z n : Nat} (hx : x < 64) (hy : y < 64) (hz : z < 64) (hn : (x * 64 + y) * 64 + z = n)
    (hfill : z % 4 = 0) :
    encode [UInt8.ofNat (n / 1024), UInt8.ofNat (n / 4)] = [symbol x, symbol y, symbol z, pad] := by
  have first : (UInt8.ofNat (n / 1024)).toNat = n / 1024 := by
    rw [UInt8.toNat_ofNat']
    omega
  have second : (UInt8.ofNat (n / 4)).toNat = n / 4 % 256 := by
    rw [UInt8.toNat_ofNat']
  have bits : (n / 1024 * 256 + n / 4 % 256) * 4 = n := by omega
  simp only [encode, first, second, bits]
  rw [show n / 4096 = x by omega, show n / 64 % 64 = y by omega, show n % 64 = z by omega]

/-- Three bytes, which fill their group. -/
theorem encode_three {x y z w n : Nat} (hx : x < 64) (hy : y < 64) (hz : z < 64) (hw : w < 64)
    (hn : ((x * 64 + y) * 64 + z) * 64 + w = n) :
    encode [UInt8.ofNat (n / 65536), UInt8.ofNat (n / 256), UInt8.ofNat n] = [symbol x, symbol y, symbol z, symbol w] := by
  have first : (UInt8.ofNat (n / 65536)).toNat = n / 65536 := by
    rw [UInt8.toNat_ofNat']
    omega
  have second : (UInt8.ofNat (n / 256)).toNat = n / 256 % 256 := by
    rw [UInt8.toNat_ofNat']
  have third : (UInt8.ofNat n).toNat = n % 256 := by
    rw [UInt8.toNat_ofNat']
  have bits : (n / 65536 * 256 + n / 256 % 256) * 256 + n % 256 = n := by omega
  simp only [encode, first, second, third, bits]
  rw [show n / 262144 = x by omega, show n / 4096 % 64 = y by omega, show n / 64 % 64 = z by omega,
    show n % 64 = w by omega]

/-- **A group that is read is the written form of its bytes**, of which there are one, two or three. -/
theorem encode_of_lastGroup? {a b c d : UInt8} {bytes : Bytes} (h : lastGroup? a b c d = some bytes) :
    encode bytes = [a, b, c, d] ∧ bytes ≠ [] ∧ (c ≠ pad → d ≠ pad → ∃ x y z, bytes = [x, y, z]) := by
  unfold lastGroup? at h
  split at h
  case h_2 => cases h
  next x y hx hy =>
    obtain ⟨hxlt, rfl⟩ := symbol_value? hx
    obtain ⟨hylt, rfl⟩ := symbol_value? hy
    split at h
    case isTrue hd =>
      subst hd
      split at h
      case isTrue hc =>
        subst hc
        split at h
        case isFalse => cases h
        next hfill =>
          cases h
          exact ⟨encode_one hxlt hylt hfill, List.cons_ne_nil _ _, fun hpad => absurd rfl hpad⟩
      case isFalse =>
        split at h
        case h_2 => cases h
        next z hz =>
          obtain ⟨hzlt, rfl⟩ := symbol_value? hz
          simp only at h
          split at h
          case isFalse => cases h
          next hfill =>
            cases h
            exact ⟨encode_two hxlt hylt hzlt rfl hfill, List.cons_ne_nil _ _, fun _ hpad => absurd rfl hpad⟩
    case isFalse =>
      split at h
      case h_2 => cases h
      next z w hz hw =>
        obtain ⟨hzlt, rfl⟩ := symbol_value? hz
        obtain ⟨hwlt, rfl⟩ := symbol_value? hw
        cases h
        exact ⟨encode_three hxlt hylt hzlt hwlt rfl, List.cons_ne_nil _ _, fun _ _ => ⟨_, _, _, rfl⟩⟩

/-! ## Byte strings -/

theorem encode_ne_nil {bytes : Bytes} (h : bytes ≠ []) : encode bytes ≠ [] := by
  unfold encode
  split
  · exact h
  all_goals exact List.cons_ne_nil _ _

/-- **What is written is read back.** -/
theorem decode?_encode (bytes : Bytes) : decode? (encode bytes) = some bytes := by
  induction bytes using encode.induct with
  | case1 => rfl
  | case2 a => exact lastGroup?_one a
  | case3 a b => exact lastGroup?_two a b rfl
  | case4 a b c rest ih =>
    generalize hn : (a.toNat * 256 + b.toNat) * 256 + c.toNat = n
    have three := lastGroup?_three a b c hn.symm
    have hz := symbol_ne_pad (n / 64 % 64) (by omega)
    have hw := symbol_ne_pad (n % 64) (by omega)
    simp only [encode, hn]
    -- the last group is read by another rule than the groups before it
    cases hrest : encode rest with
    | nil =>
      cases rest with
      | nil => exact three
      | cons d rest => exact absurd hrest (encode_ne_nil (List.cons_ne_nil d rest))
    | cons d more =>
      rw [hrest] at ih
      have group : group? (symbol (n / 262144)) (symbol (n / 4096 % 64)) (symbol (n / 64 % 64)) (symbol (n % 64))
          = some [a, b, c] := by
        rw [group?, if_neg (by simp [hz, hw]), three]
      rw [decode?, group, ih]
      · rfl
      · intro h
        cases h

/-- Three bytes are written on their own. -/
theorem encode_append_three (x y z : UInt8) (rest : Bytes) :
    encode (x :: y :: z :: rest) = encode [x, y, z] ++ encode rest := by
  simp [encode]

/-- **What is read has been written so.** The induction is on the groups. -/
theorem encode_of_decode? {text bytes : Bytes} (h : decode? text = some bytes) : encode bytes = text := by
  induction text using decode?.induct generalizing bytes with
  | case1 =>
    cases h
    rfl
  | case2 a b c d => exact (encode_of_lastGroup? h).1
  | case3 a b c d rest hrest three more hmore hgroup ih =>
    rw [decode?, hgroup, hmore] at h
    · cases h
      unfold group? at hgroup
      split at hgroup
      · cases hgroup
      · next hpads =>
        rw [not_or] at hpads
        obtain ⟨hwritten, -, hthree⟩ := encode_of_lastGroup? hgroup
        obtain ⟨x, y, z, rfl⟩ := hthree hpads.1 hpads.2
        rw [List.cons_append, List.cons_append, List.cons_append, List.nil_append, encode_append_three, hwritten, ih hmore]
        rfl
    · exact hrest
  | case4 a b c d rest hrest hnone =>
    rw [decode?] at h
    · split at h
      · next three more hgroup hmore => exact (hnone three more hgroup hmore).elim
      · cases h
    · exact hrest
  | case5 text hempty hlast hmany =>
    rw [decode?] at h
    · cases h
    · exact hempty
    · exact hlast
    · exact hmany

/-- **Reading accepts exactly what writing produces.** -/
theorem decode?_eq_some_iff {text bytes : Bytes} : decode? text = some bytes ↔ text = encode bytes :=
  ⟨fun h => (encode_of_decode? h).symm, fun h => h ▸ decode?_encode bytes⟩

/-- The written form grows by four characters with three bytes. -/
theorem length_encode (bytes : Bytes) : (encode bytes).length = (bytes.length + 2) / 3 * 4 := by
  induction bytes using encode.induct with
  | case1 => rfl
  | case2 a => simp [encode]
  | case3 a b => simp [encode]
  | case4 a b c rest ih =>
    simp only [encode, List.length_cons, ih]
    omega

/-- **What is written shows.** -/
theorem visible_encode (bytes : Bytes) : ∀ b ∈ encode bytes, IsVisible b := by
  induction bytes using encode.induct with
  | case1 => simp [encode]
  | case2 a => simp [encode, visible_symbol, visible_pad]
  | case3 a b => simp [encode, visible_symbol, visible_pad]
  | case4 a b c rest ih => simpa [encode, visible_symbol] using ih

/-- **What is written consists of the characters of the alphabet**, and what fills up the last group. -/
theorem isCharacter_encode (bytes : Bytes) : ∀ b ∈ encode bytes, IsCharacter b := by
  have filled : IsCharacter pad := Or.inr rfl
  induction bytes using encode.induct with
  | case1 => simp [encode]
  | case2 a =>
    have ha := a.toNat_lt
    simp only [encode, List.forall_mem_cons]
    exact ⟨isCharacter_symbol (by omega), isCharacter_symbol (by omega), filled, filled, nofun⟩
  | case3 a b =>
    have ha := a.toNat_lt
    have hb := b.toNat_lt
    simp only [encode, List.forall_mem_cons]
    exact ⟨isCharacter_symbol (by omega), isCharacter_symbol (by omega), isCharacter_symbol (by omega), filled, nofun⟩
  | case4 a b c rest ih =>
    have ha := a.toNat_lt
    have hb := b.toNat_lt
    have hc := c.toNat_lt
    simp only [encode, List.forall_mem_cons]
    exact ⟨isCharacter_symbol (by omega), isCharacter_symbol (by omega), isCharacter_symbol (by omega),
      isCharacter_symbol (by omega), ih⟩

end TextSocket.Base64
