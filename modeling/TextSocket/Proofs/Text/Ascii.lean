import Mathlib.Tactic.SplitIfs
import TextSocket.Ascii

/-!
# `Proofs.Text.Ascii` — bytes shown as characters

Showing one character per byte loses nothing (`latin1_injective`), and **for ASCII bytes the text shown has these
bytes as its UTF-8 form** (`ofText_latin1`), so it can be read back.

## Contents

* `forall_byte` — what holds of all bytes;
* `latin1_injective`, `ofText_latin1` — back from the view;
* `ofText_append`, `ofText_ascii`, `mem_ofText`, `byte_mem_ofText` — the bytes of a text;
* `latin1_ofText` — an ASCII text from its bytes;
* `Ascii.IsVisible` — bytes that show;
* `ascii_of_isToken`, `ascii_of_isPrintable` — tokens and printable bytes are ASCII.
-/

namespace TextSocket.Bytes

/-- What holds of all 256 bytes holds of any. -/
theorem forall_byte {p : UInt8 → Prop} (h : ∀ n < 256, p (UInt8.ofNat n)) (b : UInt8) : p b := by
  have := h b.toNat b.toNat_lt
  rwa [UInt8.ofNat_toNat] at this

theorem toNat_char {n : Nat} (h : n < 256) : (Char.ofNat n).toNat = n := by
  have valid : n.isValidChar := .inl (by omega)
  rw [Char.ofNat, dif_pos valid]
  rfl

theorem encode_char : ∀ n < 128, String.utf8EncodeChar (Char.ofNat n) = [UInt8.ofNat n] := by decide

/-- The view determines the bytes. -/
theorem latin1_injective {a b : Bytes} (h : latin1 a = latin1 b) : a = b := by
  have chars : a.map (fun b => Char.ofNat b.toNat) = b.map fun b => Char.ofNat b.toNat :=
    String.ofList_injective h
  refine (List.map_inj_right ?_).1 chars
  intro x y hxy
  apply UInt8.toNat_inj.1
  rw [← toNat_char x.toNat_lt, ← toNat_char y.toNat_lt]
  exact congrArg Char.toNat hxy

/-- **ASCII bytes are the UTF-8 form of their view.** -/
theorem ofText_latin1 {bytes : Bytes} (h : ∀ b ∈ bytes, b.toNat < 128) : ofText (latin1 bytes) = bytes := by
  rw [latin1, ofText_ofList]
  induction bytes with
  | nil => rfl
  | cons b bytes ih =>
    have head := encode_char b.toNat (h b List.mem_cons_self)
    rw [List.map_cons, List.flatMap_cons, head, ih fun c hc => h c (List.mem_cons_of_mem b hc)]
    simp

theorem ofText_append (a b : String) : ofText (a ++ b) = ofText a ++ ofText b := by
  simp [ofText]

/-- **The UTF-8 form of ASCII characters has one byte for each.** -/
theorem ofText_ascii {cs : List Char} (h : ∀ c ∈ cs, c.toNat < 128) :
    ofText (String.ofList cs) = cs.map fun c => UInt8.ofNat c.toNat := by
  rw [ofText_ofList]
  induction cs with
  | nil => rfl
  | cons c cs ih =>
    have head := encode_char c.toNat (h c List.mem_cons_self)
    rw [Char.ofNat_toNat] at head
    rw [List.flatMap_cons, head, ih fun d hd => h d (List.mem_cons_of_mem c hd)]
    rfl

theorem ofText_eq_map {text : String} (h : ∀ c ∈ text.toList, c.toNat < 128) :
    ofText text = text.toList.map fun c => UInt8.ofNat c.toNat := by
  rw [← ofText_ascii h, String.ofList_toList]

/-- A byte of the ASCII range stands for itself: it is no part of any other character. -/
theorem toNat_of_mem_encode {c : Char} {b : UInt8} (h : b ∈ String.utf8EncodeChar c) (hb : b.toNat < 128) :
    c.toNat = b.toNat := by
  have further (n : Nat) : 128 ≤ (UInt8.ofNat (n % 64 + 128)).toNat := by
    rw [UInt8.toNat_ofNat']
    omega
  have two (n : Nat) : 128 ≤ (UInt8.ofNat (n % 32 + 192)).toNat := by
    rw [UInt8.toNat_ofNat']
    omega
  have three (n : Nat) : 128 ≤ (UInt8.ofNat (n % 16 + 224)).toNat := by
    rw [UInt8.toNat_ofNat']
    omega
  have four (n : Nat) : 128 ≤ (UInt8.ofNat (n % 8 + 240)).toNat := by
    rw [UInt8.toNat_ofNat']
    omega
  have value : c.val.toNat = c.toNat := rfl
  unfold String.utf8EncodeChar at h
  dsimp only at h
  split_ifs at h with hone
  all_goals simp only [List.mem_cons, List.not_mem_nil, or_false] at h
  · subst h
    rw [UInt8.toNat_ofNat']
    omega
  · rcases h with rfl | rfl
    · exact absurd hb (Nat.not_lt.2 (two _))
    · exact absurd hb (Nat.not_lt.2 (further _))
  · rcases h with rfl | rfl | rfl
    · exact absurd hb (Nat.not_lt.2 (three _))
    all_goals exact absurd hb (Nat.not_lt.2 (further _))
  · rcases h with rfl | rfl | rfl | rfl
    · exact absurd hb (Nat.not_lt.2 (four _))
    all_goals exact absurd hb (Nat.not_lt.2 (further _))

theorem ofText_eq_flatMap (text : String) : ofText text = text.toList.flatMap String.utf8EncodeChar := by
  rw [← ofText_ofList, String.ofList_toList]

theorem mem_ofText {text : String} {b : UInt8} (h : b ∈ ofText text) (hb : b.toNat < 128) :
    ∃ c ∈ text.toList, c.toNat = b.toNat := by
  rw [ofText_eq_flatMap] at h
  obtain ⟨c, hc, h⟩ := List.mem_flatMap.1 h
  exact ⟨c, hc, toNat_of_mem_encode h hb⟩

theorem mem_ofText_of_mem {text : String} {c : Char} (hc : c ∈ text.toList) {b : UInt8}
    (hb : b ∈ String.utf8EncodeChar c) : b ∈ ofText text := by
  rw [ofText_eq_flatMap]
  exact List.mem_flatMap.2 ⟨c, hc, hb⟩

/-- An ASCII character of a text stands among its bytes. -/
theorem byte_mem_ofText {text : String} {c : Char} (hc : c ∈ text.toList) (hascii : c.toNat < 128) :
    UInt8.ofNat c.toNat ∈ ofText text := by
  apply mem_ofText_of_mem hc
  have hbyte := encode_char c.toNat hascii
  rw [Char.ofNat_toNat] at hbyte
  simp [hbyte]

/-- A text whose bytes are ASCII has ASCII characters only. -/
theorem ascii_of_ofText {text : String} (h : ∀ b ∈ ofText text, b.toNat < 128) {c : Char} (hc : c ∈ text.toList) :
    c.toNat < 128 := by
  obtain ⟨b, hb⟩ : ∃ b, b ∈ String.utf8EncodeChar c := by
    apply List.exists_mem_of_ne_nil
    intro hnil
    have := String.length_utf8EncodeChar c
    have := c.utf8Size_pos
    simp_all
  have hbyte := h b (mem_ofText_of_mem hc hb)
  rw [toNat_of_mem_encode hb hbyte]
  exact hbyte

/-- **An ASCII text is the view of its bytes.** -/
theorem latin1_ofText {text : String} (h : ∀ c ∈ text.toList, c.toNat < 128) : latin1 (ofText text) = text := by
  have hback : (ofText text).map (fun b => Char.ofNat b.toNat) = text.toList := by
    rw [ofText_eq_map h, List.map_map]
    refine (List.map_congr_left fun c hc => ?_).trans (List.map_id _)
    have hbyte : c.toNat < 256 := Nat.lt_trans (h c hc) (by decide)
    simp [UInt8.toNat_ofNat', Nat.mod_eq_of_lt hbyte]
  rw [latin1, hback, String.ofList_toList]

end TextSocket.Bytes

namespace TextSocket.Ascii

/-- A byte that shows, and is no blank. -/
def IsVisible (b : UInt8) : Prop := 33 ≤ b.toNat ∧ b.toNat < 127

instance (b : UInt8) : Decidable (IsVisible b) := inferInstanceAs (Decidable (_ ∧ _))

theorem ascii_of_isToken {b : UInt8} (h : isToken b = true) : b.toNat < 128 := by
  revert b
  apply Bytes.forall_byte
  decide +kernel

theorem ascii_of_isPrintable {b : UInt8} (h : isPrintable b = true) : b.toNat < 128 := by
  simp only [isPrintable, Bool.or_eq_true, Bool.and_eq_true, decide_eq_true_eq, beq_iff_eq] at h
  rcases h with ⟨-, hlt⟩ | rfl
  · rw [UInt8.lt_iff_toNat_lt] at hlt
    exact Nat.lt_trans hlt (by decide)
  · decide

end TextSocket.Ascii
