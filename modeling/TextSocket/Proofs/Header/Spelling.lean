import Mathlib.Data.List.Forall2
import Mathlib.Tactic.ByContra
import Mathlib.Tactic.SplitIfs
import TextSocket.Header.Name
import TextSocket.Header.Value
import TextSocket.Proofs.Text.Ascii

/-!
# `Proofs.Header.Spelling` — names and values from what is written

A name may be written in any case, and what is written is a name exactly if it is a token of admissible length
(`Name.exists_ofBytes?_iff`). The name in text is what was written, in small letters (`Name.text_of_ofBytes?`). A text
is a value unless it holds a control other than the tab (`Value.exists_ofBytes?_iff`), and it is a printable one if it
shows (`Value.isPrintable_iff`). Names and printable values are admitted again from their own texts.

## Contents

* `IsName`, `Name.exists_ofBytes?_iff` — what is a name;
* `Name.text_of_ofBytes?`, `Name.ofBytes?_text` — the text of a name;
* `IsControl`, `IsShown` — characters that are refused, and characters that show;
* `Value.exists_ofBytes?_iff`, `Value.isPrintable_iff`, `Value.ofBytes?_text` — values.
-/

namespace TextSocket.Header

/-- If everything in a list stands for something, the list stands for a list. -/
theorem exists_forall₂ {α β : Type} {r : α → β → Prop} {l : List α} (h : ∀ a ∈ l, ∃ b, r a b) :
    ∃ bs, List.Forall₂ r l bs := by
  induction l with
  | nil => exact ⟨[], .nil⟩
  | cons a l ih =>
    obtain ⟨b, hb⟩ := h a List.mem_cons_self
    obtain ⟨bs, hbs⟩ := ih fun a ha => h a (List.mem_cons_of_mem _ ha)
    exact ⟨b :: bs, .cons hb hbs⟩

theorem exists_of_forall₂ {α β : Type} {r : α → β → Prop} {l : List α} {bs : List β} (h : List.Forall₂ r l bs) :
    ∀ a ∈ l, ∃ b, r a b := by
  induction h with
  | nil => exact nofun
  | cons hb _ ih => exact List.forall_mem_cons.2 ⟨⟨_, hb⟩, ih⟩

/-! ## Names -/

theorem isToken_of_lower {b : UInt8} (h : Ascii.isToken (Ascii.lower b) = true) : Ascii.isToken b = true := by
  revert b
  apply Bytes.forall_byte
  decide +kernel

theorem isNameByte_lower {b : UInt8} (h : Ascii.isToken b = true) : isNameByte (Ascii.lower b) = true := by
  revert b
  apply Bytes.forall_byte
  decide +kernel

/-- What is a name when case is ignored: a token that is neither empty nor too long. -/
structure IsName (spelling : Bytes) : Prop where
  /-- It is not empty. -/
  nonempty : spelling ≠ []
  /-- It is short enough. -/
  short : spelling.length ≤ 65535
  /-- It is a token. -/
  token : ∀ b ∈ spelling, Ascii.isToken b = true

instance (spelling : Bytes) : Decidable (IsName spelling) :=
  decidable_of_iff (spelling ≠ [] ∧ spelling.length ≤ 65535 ∧ spelling.all Ascii.isToken = true)
    ⟨fun h => ⟨h.1, h.2.1, List.all_eq_true.1 h.2.2⟩, fun h => ⟨h.nonempty, h.short, List.all_eq_true.2 h.token⟩⟩

namespace Name

variable {spelling : Bytes} {name : Name}

/-- A name holds what was written, in small letters. -/
theorem bytes_of_ofBytes? (h : ofBytes? spelling = some name) : name.bytes = spelling.map Ascii.lower := by
  unfold ofBytes? at h
  split_ifs at h
  rw [← Option.some.inj h]

theorem isName_of_ofBytes? (h : ofBytes? spelling = some name) : IsName spelling := by
  unfold ofBytes? at h
  split_ifs at h with hvalid
  obtain ⟨⟨hne, hlength⟩, hbytes⟩ := hvalid
  constructor
  · intro hnil
    rw [hnil] at hne
    exact hne rfl
  · rwa [List.length_map] at hlength
  · intro b hb
    have hlower := List.all_eq_true.1 hbytes (Ascii.lower b) (List.mem_map_of_mem hb)
    rw [isNameByte, Bool.and_eq_true] at hlower
    exact isToken_of_lower hlower.1

/-- **What is written is a name exactly if it is a token of admissible length.** -/
theorem exists_ofBytes?_iff : (∃ name, ofBytes? spelling = some name) ↔ IsName spelling := by
  constructor
  · rintro ⟨name, hname⟩
    exact isName_of_ofBytes? hname
  · intro h
    have valid : (spelling.map Ascii.lower ≠ [] ∧ (spelling.map Ascii.lower).length ≤ 65535) ∧
        (spelling.map Ascii.lower).all isNameByte = true := by
      refine ⟨⟨?_, ?_⟩, ?_⟩
      · intro hnil
        exact h.nonempty (List.map_eq_nil_iff.1 hnil)
      · rw [List.length_map]
        exact h.short
      · rw [List.all_map]
        apply List.all_eq_true.2
        intro b hb
        exact isNameByte_lower (h.token b hb)
    exact ⟨⟨_, valid⟩, dif_pos valid⟩

theorem ascii (name : Name) : ∀ b ∈ name.bytes, b.toNat < 128 := by
  intro b hb
  have hname := List.all_eq_true.1 name.valid.2 b hb
  rw [isNameByte, Bool.and_eq_true] at hname
  exact Ascii.ascii_of_isToken hname.1

theorem text_injective {a b : Name} (h : a.text = b.text) : a = b :=
  eq_of_bytes (Bytes.latin1_injective h)

theorem lower_bytes (name : Name) : name.bytes.map Ascii.lower = name.bytes := by
  refine (List.map_congr_left fun b hb => ?_).trans (List.map_id name.bytes)
  have hname := List.all_eq_true.1 name.valid.2 b hb
  rw [isNameByte, Bool.and_eq_true, Bool.not_eq_true'] at hname
  exact if_neg (by simp [hname.2])

/-- A name is admitted from its text. -/
theorem ofBytes?_text (name : Name) : ofBytes? (Bytes.ofText name.text) = some name := by
  rw [text, Bytes.ofText_latin1 name.ascii, ofBytes?]
  simp only [name.lower_bytes]
  exact dif_pos name.valid

/-- Bytes and characters agree on what small letters are. -/
theorem lower_char : ∀ n < 128, Char.ofNat (Ascii.lower (UInt8.ofNat n)).toNat = (Char.ofNat n).toLower := by
  decide +kernel

/-- **The text of a name is what was written, in small letters.** -/
theorem text_of_ofBytes? {key : String} (h : ofBytes? (Bytes.ofText key) = some name) : name.text = key.toLower := by
  have hbytes : ∀ b ∈ Bytes.ofText key, b.toNat < 128 := by
    intro b hb
    exact Ascii.ascii_of_isToken ((isName_of_ofBytes? h).token b hb)
  have hchars : ∀ c ∈ key.toList, c.toNat < 128 := by
    intro c hc
    exact Bytes.ascii_of_ofText hbytes hc
  have hlower : name.bytes.map (fun b => Char.ofNat b.toNat) = key.toList.map Char.toLower := by
    rw [bytes_of_ofBytes? h, Bytes.ofText_eq_map hchars, List.map_map, List.map_map]
    apply List.map_congr_left
    intro c hc
    have := lower_char c.toNat (hchars c hc)
    rwa [Char.ofNat_toNat] at this
  rw [text, Bytes.latin1, hlower, ← String.toList_map, String.ofList_toList]
  rfl

end Name

/-! ## Values -/

/-- A control character, the tab apart. -/
def IsControl (c : Char) : Prop := (c.toNat < 32 ∧ c ≠ '\t') ∨ c.toNat = 127

/-- A character of printable ASCII, or a tab. -/
def IsShown (c : Char) : Prop := (32 ≤ c.toNat ∧ c.toNat < 127) ∨ c = '\t'

instance (c : Char) : Decidable (IsControl c) := inferInstanceAs (Decidable (_ ∨ _))

instance (c : Char) : Decidable (IsShown c) := inferInstanceAs (Decidable (_ ∨ _))

namespace Value

theorem isValueByte_char : ∀ n < 128, isValueByte (UInt8.ofNat n) = true ↔ ¬ IsControl (Char.ofNat n) := by
  decide +kernel

theorem isPrintable_char : ∀ n < 128, Ascii.isPrintable (UInt8.ofNat n) = true ↔ IsShown (Char.ofNat n) := by
  decide +kernel

theorem ascii_of_isValueByte {b : UInt8} (h : isValueByte b = false) : b.toNat < 128 := by
  revert b
  apply Bytes.forall_byte
  decide +kernel

variable {text : String} {value : Value}

theorem bytes_of_ofBytes? {bytes : Bytes} (h : ofBytes? bytes = some value) : value.bytes = bytes := by
  unfold ofBytes? at h
  split_ifs at h
  rw [← Option.some.inj h]

/-- **A text is a value unless it holds a control.** -/
theorem exists_ofBytes?_iff :
    (∃ value, ofBytes? (Bytes.ofText text) = some value) ↔ ∀ c ∈ text.toList, ¬ IsControl c := by
  have hvalid : (∃ value, ofBytes? (Bytes.ofText text) = some value) ↔ (Bytes.ofText text).all isValueByte = true := by
    unfold ofBytes?
    split_ifs with h <;> simp [h]
  rw [hvalid, List.all_eq_true]
  constructor
  · intro h c hc hcontrol
    -- a control is ASCII, so its byte stands among those of the text
    have hascii : c.toNat < 128 := by
      unfold IsControl at hcontrol
      omega
    have hbyte := h _ (Bytes.byte_mem_ofText hc hascii)
    rw [isValueByte_char c.toNat hascii, Char.ofNat_toNat] at hbyte
    exact hbyte hcontrol
  · intro h b hb
    by_contra hbad
    have hascii := ascii_of_isValueByte (Bool.eq_false_iff.2 hbad)
    obtain ⟨c, hc, hbyte⟩ := Bytes.mem_ofText hb hascii
    apply hbad
    rw [← UInt8.ofNat_toNat (x := b), isValueByte_char b.toNat hascii, ← hbyte, Char.ofNat_toNat]
    exact h c hc

theorem ascii_of_isShown {c : Char} (h : IsShown c) : c.toNat < 128 := by
  rcases h with ⟨-, h⟩ | rfl
  · exact Nat.lt_trans h (by decide)
  · decide

/-- **The value of a text is printable if the text shows.** -/
theorem isPrintable_iff (h : value.bytes = Bytes.ofText text) :
    value.isPrintable = true ↔ ∀ c ∈ text.toList, IsShown c := by
  rw [isPrintable, h, List.all_eq_true]
  constructor
  · intro hbytes c hc
    have hascii : c.toNat < 128 := Bytes.ascii_of_ofText (fun b hb => Ascii.ascii_of_isPrintable (hbytes b hb)) hc
    have hbyte := hbytes _ (Bytes.byte_mem_ofText hc hascii)
    rwa [isPrintable_char c.toNat hascii, Char.ofNat_toNat] at hbyte
  · intro hchars b hb
    rw [Bytes.ofText_eq_map fun c hc => ascii_of_isShown (hchars c hc)] at hb
    obtain ⟨c, hc, rfl⟩ := List.mem_map.1 hb
    rw [isPrintable_char c.toNat (ascii_of_isShown (hchars c hc)), Char.ofNat_toNat]
    exact hchars c hc

/-- The text of a printable value is the one that it was made from. -/
theorem latin1_bytes (h : value.bytes = Bytes.ofText text) (hshown : ∀ c ∈ text.toList, IsShown c) :
    value.bytes.latin1 = text := by
  rw [h]
  exact Bytes.latin1_ofText fun c hc => ascii_of_isShown (hshown c hc)

/-- A printable value is admitted from its text. -/
theorem ofBytes?_text (h : value.isPrintable = true) : ofBytes? (Bytes.ofText value.bytes.latin1) = some value := by
  have ascii : ∀ b ∈ value.bytes, b.toNat < 128 := fun b hb =>
    Ascii.ascii_of_isPrintable (List.all_eq_true.1 h b hb)
  rw [Bytes.ofText_latin1 ascii, ofBytes?, dif_pos value.valid]

end Value

end TextSocket.Header
