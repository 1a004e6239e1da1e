import TextSocket.Proofs.Json.RoundTrip

/-!
# `Proofs.Json.Grammar` — what a JSON text is

The readers of the library find out by themselves where a value ends. Here it is said without reading what a JSON text
is: **a value is written with the texts of its parts, with white space between them** (`IsJson`). A string is written
with escapes, and stands for a text if its escapes of surrogates come in pairs (`Spells`); the grammar alone does not ask
for that (`IsBody`).

## Contents

* `IsGap` — white space;
* `IsHex4`, `shortEscapes`, `IsBody`, `Spells`, `IsPlain` — the inside of a string, and the text that it stands for;
* `IsDigits`, `IsWhole`, `IsFraction`, `IsExponent`, `IsNumber` — numbers;
* `Slot`, `Entry`, `inside`, `listText`, `objectText` — elements and members with the white space around them;
* `IsJson` — values.
-/

namespace TextSocket.Json

/-! ## White space -/

/-- White space, or nothing. -/
def IsGap (gap : List Char) : Prop := ∀ c ∈ gap, c = ' ' ∨ c = '\n' ∨ c = '\t' ∨ c = '\r'

instance (gap : List Char) : Decidable (IsGap gap) :=
  List.decidableBAll (fun c => c = ' ' ∨ c = '\n' ∨ c = '\t' ∨ c = '\r') gap

theorem IsGap.isBlank {gap : List Char} (h : IsGap gap) : ∀ c ∈ gap, isBlank c = true := by
  intro c hc
  rcases h c hc with rfl | rfl | rfl | rfl
  · rfl
  · rfl
  · rfl
  · rfl

/-- White space continues no number. -/
theorem closed_gap {gap rest : List Char} (hgap : IsGap gap) (hrest : Closed rest) : Closed (gap ++ rest) := by
  cases gap with
  | nil => exact hrest
  | cons c gap =>
    apply closed_cons
    rcases hgap c List.mem_cons_self with rfl | rfl | rfl | rfl
    · decide
    · decide
    · decide
    · decide

/-! ## Strings -/

/-- Four hexadecimal digits, and their value. -/
inductive IsHex4 : List Char → Nat → Prop where
  /-- The first digit counts most. -/
  | digits {a b c d : Char} {w x y z : Nat} (first : Bytes.hexValue? a = some w) (second : Bytes.hexValue? b = some x)
      (third : Bytes.hexValue? c = some y) (fourth : Bytes.hexValue? d = some z) :
      IsHex4 [a, b, c, d] (((w * 16 + x) * 16 + y) * 16 + z)

/-- The letters of the short escapes, and the characters that they stand for. -/
def shortEscapes : List (Char × Char) :=
  [('"', '"'), ('\\', '\\'), ('/', '/'), ('b', '\x08'), ('f', '\x0c'), ('n', '\n'), ('r', '\r'), ('t', '\t')]

/-- The readers know the short escapes, and they are not units. -/
theorem shortEscape?_of_mem {e c : Char} (h : (e, c) ∈ shortEscapes) : shortEscape? e = some c ∧ e ≠ 'u' := by
  have hall : ∀ escape ∈ shortEscapes, shortEscape? escape.1 = some escape.2 ∧ escape.1 ≠ 'u' := by decide
  exact hall (e, c) h

/-- **The inside of a string.** -/
inductive IsBody : List Char → Prop where
  /-- Nothing. -/
  | nil : IsBody []
  /-- A character as it is: no quote, no backslash and no control. -/
  | plain {c : Char} {body : List Char} (hquote : c ≠ '"') (hslash : c ≠ '\\') (hcontrol : 32 ≤ c.toNat)
      (hbody : IsBody body) : IsBody (c :: body)
  /-- A short escape. -/
  | short {e c : Char} {body : List Char} (hescape : (e, c) ∈ shortEscapes) (hbody : IsBody body) :
      IsBody ('\\' :: e :: body)
  /-- A unit of 16 bits. -/
  | unit {digits body : List Char} {n : Nat} (hdigits : IsHex4 digits n) (hbody : IsBody body) :
      IsBody ('\\' :: 'u' :: (digits ++ body))

/-- **The inside of a string, and the text that it stands for.** -/
inductive Spells : List Char → List Char → Prop where
  /-- Nothing. -/
  | nil : Spells [] []
  /-- A character as it is. -/
  | plain {c : Char} {body text : List Char} (hquote : c ≠ '"') (hslash : c ≠ '\\') (hcontrol : 32 ≤ c.toNat)
      (hbody : Spells body text) : Spells (c :: body) (c :: text)
  /-- A short escape. -/
  | short {e c : Char} {body text : List Char} (hescape : (e, c) ∈ shortEscapes) (hbody : Spells body text) :
      Spells ('\\' :: e :: body) (c :: text)
  /-- A unit that is a character. -/
  | unit {digits body text : List Char} {n : Nat} (hdigits : IsHex4 digits n) (hwhole : n < 0xD800 ∨ 0xDFFF < n)
      (hbody : Spells body text) : Spells ('\\' :: 'u' :: (digits ++ body)) (Char.ofNat n :: text)
  /-- Two units that are halves of a character. -/
  | pair {high low body text : List Char} {n m : Nat} (hhigh : IsHex4 high n) (hfirst : 0xD800 ≤ n ∧ n ≤ 0xDBFF)
      (hlow : IsHex4 low m) (hsecond : 0xDC00 ≤ m ∧ m ≤ 0xDFFF) (hbody : Spells body text) :
      Spells ('\\' :: 'u' :: (high ++ '\\' :: 'u' :: (low ++ body)))
        (Char.ofNat ((n - 0xD800) * 0x400 + (m - 0xDC00) + 0x10000) :: text)

/-- What stands for a text is the inside of a string. -/
theorem Spells.isBody {body text : List Char} (h : Spells body text) : IsBody body := by
  induction h with
  | nil => exact .nil
  | plain hquote hslash hcontrol _ ih => exact .plain hquote hslash hcontrol ih
  | short hescape _ ih => exact .short hescape ih
  | unit hdigits _ _ ih => exact .unit hdigits ih
  | pair hhigh _ hlow _ _ ih => exact .unit hhigh (.unit hlow ih)

/-- Text without quotes, backslashes and controls. -/
def IsPlain (text : List Char) : Prop := ∀ c ∈ text, c ≠ '"' ∧ c ≠ '\\' ∧ 32 ≤ c.toNat

instance (text : List Char) : Decidable (IsPlain text) :=
  List.decidableBAll (fun c => c ≠ '"' ∧ c ≠ '\\' ∧ 32 ≤ c.toNat) text

/-- Plain text stands for itself. -/
theorem spells_plain {text : List Char} (h : IsPlain text) : Spells text text := by
  induction text with
  | nil => exact .nil
  | cons c text ih =>
    obtain ⟨⟨hquote, hslash, hcontrol⟩, htext⟩ := List.forall_mem_cons.mp h
    exact .plain hquote hslash hcontrol (ih htext)

/-! ## Numbers -/

/-- Digits, at least one. -/
structure IsDigits (digits : List Char) : Prop where
  /-- There is one. -/
  some : digits ≠ []
  /-- All are digits. -/
  all : ∀ c ∈ digits, c.isDigit = true

/-- The digits in front of a point: no zero stands in front of others. -/
inductive IsWhole : List Char → Prop where
  /-- A zero. -/
  | zero : IsWhole ['0']
  /-- Digits of which the first is no zero. -/
  | digits {c : Char} {more : List Char} (hfirst : c.isDigit = true) (hzero : c ≠ '0')
      (hmore : ∀ d ∈ more, d.isDigit = true) : IsWhole (c :: more)

/-- The digits in front of a point are digits. -/
theorem IsWhole.digits_all {whole : List Char} (h : IsWhole whole) :
    ∃ c more, whole = c :: more ∧ ∀ d ∈ whole, d.isDigit = true := by
  cases h with
  | zero => exact ⟨'0', [], rfl, List.forall_mem_singleton.mpr rfl⟩
  | @digits c more hfirst _ hmore => exact ⟨c, more, rfl, List.forall_mem_cons.mpr ⟨hfirst, hmore⟩⟩

/-- A point and the digits behind it, or nothing. -/
inductive IsFraction : List Char → Prop where
  /-- Nothing. -/
  | none : IsFraction []
  /-- A point and digits. -/
  | some {digits : List Char} (hdigits : IsDigits digits) : IsFraction ('.' :: digits)

/-- An exponent, or nothing. -/
inductive IsExponent : List Char → Prop where
  /-- Nothing. -/
  | none : IsExponent []
  /-- A letter, digits, and perhaps a sign between them. -/
  | some {letter : Char} {sign digits : List Char} (hletter : letter = 'e' ∨ letter = 'E')
      (hsign : sign = [] ∨ sign = ['+'] ∨ sign = ['-']) (hdigits : IsDigits digits) :
      IsExponent (letter :: (sign ++ digits))

/-- **A number**: perhaps a minus sign, digits, perhaps a fraction and perhaps an exponent. -/
inductive IsNumber : List Char → Prop where
  /-- The parts in their order. -/
  | parts {sign whole fraction exponent : List Char} (hsign : sign = [] ∨ sign = ['-']) (hwhole : IsWhole whole)
      (hfraction : IsFraction fraction) (hexponent : IsExponent exponent) :
      IsNumber (sign ++ (whole ++ (fraction ++ exponent)))

/-- A number begins with a minus sign or a digit. -/
theorem IsNumber.head {text : List Char} (h : IsNumber text) :
    ∃ c more, text = c :: more ∧ (c = '-' ∨ c.isDigit = true) := by
  cases h with
  | parts hsign hwhole _ _ =>
    rcases hsign with rfl | rfl
    · obtain ⟨c, more, rfl, hdigits⟩ := hwhole.digits_all
      exact ⟨c, _, rfl, Or.inr (hdigits c List.mem_cons_self)⟩
    · exact ⟨'-', _, rfl, Or.inl rfl⟩

/-! ## Elements and members -/

/-- An element of a list, with the white space around it. -/
structure Slot where
  /-- White space in front. -/
  front : List Char
  /-- The element. -/
  value : List Char
  /-- White space behind. -/
  back : List Char

/-- A member of an object, with the white space around its parts. -/
structure Entry where
  /-- White space in front. -/
  front : List Char
  /-- The inside of the key. -/
  key : List Char
  /-- White space behind the key. -/
  behind : List Char
  /-- White space in front of the value. -/
  ahead : List Char
  /-- The value. -/
  value : List Char
  /-- White space behind. -/
  back : List Char

/-- The text of an element. -/
def Slot.text (slot : Slot) : List Char := slot.front ++ (slot.value ++ slot.back)

/-- What stands around an element is white space. -/
structure Slot.IsSpaced (slot : Slot) : Prop where
  /-- In front. -/
  front : IsGap slot.front
  /-- Behind. -/
  back : IsGap slot.back

instance (slot : Slot) : Decidable slot.IsSpaced :=
  decidable_of_iff (IsGap slot.front ∧ IsGap slot.back)
    ⟨fun ⟨front, back⟩ => ⟨front, back⟩, fun ⟨front, back⟩ => ⟨front, back⟩⟩

/-- The text of a member from behind its key. -/
def Entry.tail (entry : Entry) : List Char := entry.behind ++ ':' :: (entry.ahead ++ (entry.value ++ entry.back))

/-- The text of a member. -/
def Entry.text (entry : Entry) : List Char := entry.front ++ '"' :: (entry.key ++ '"' :: entry.tail)

/-- What stands around the parts of a member is white space. -/
structure Entry.IsSpaced (entry : Entry) : Prop where
  /-- In front. -/
  front : IsGap entry.front
  /-- Behind the key. -/
  behind : IsGap entry.behind
  /-- In front of the value. -/
  ahead : IsGap entry.ahead
  /-- Behind. -/
  back : IsGap entry.back

instance (entry : Entry) : Decidable entry.IsSpaced :=
  decidable_of_iff (IsGap entry.front ∧ IsGap entry.behind ∧ IsGap entry.ahead ∧ IsGap entry.back)
    ⟨fun ⟨front, behind, ahead, back⟩ => ⟨front, behind, ahead, back⟩,
      fun ⟨front, behind, ahead, back⟩ => ⟨front, behind, ahead, back⟩⟩

/-- What stands between brackets: parts with commas between them, or white space if there are none. -/
def inside (gap : List Char) : List (List Char) → List Char
  | [] => gap
  | part :: parts => part ++ parts.flatMap (',' :: ·)

/-- The text of a list. -/
def listText (gap : List Char) (slots : List Slot) : List Char :=
  '[' :: (inside gap (slots.map Slot.text) ++ [']'])

/-- The text of an object. -/
def objectText (gap : List Char) (entries : List Entry) : List Char :=
  '\x7b' :: (inside gap (entries.map Entry.text) ++ ['\x7d'])

/-! ## Values -/

/-- **A JSON value.** -/
inductive IsJson : List Char → Prop where
  /-- `null` -/
  | null : IsJson ['n', 'u', 'l', 'l']
  /-- `true` -/
  | true : IsJson ['t', 'r', 'u', 'e']
  /-- `false` -/
  | false : IsJson ['f', 'a', 'l', 's', 'e']
  /-- A number. -/
  | number {text : List Char} (htext : IsNumber text) : IsJson text
  /-- A string. -/
  | string {body : List Char} (hbody : IsBody body) : IsJson ('"' :: (body ++ ['"']))
  /-- A list. -/
  | list {gap : List Char} {slots : List Slot} (hgap : IsGap gap) (hspaced : ∀ slot ∈ slots, slot.IsSpaced)
      (hvalues : ∀ slot ∈ slots, IsJson slot.value) : IsJson (listText gap slots)
  /-- An object. -/
  | object {gap : List Char} {entries : List Entry} (hgap : IsGap gap) (hspaced : ∀ entry ∈ entries, entry.IsSpaced)
      (hkeys : ∀ entry ∈ entries, IsBody entry.key) (hvalues : ∀ entry ∈ entries, IsJson entry.value) :
      IsJson (objectText gap entries)

end TextSocket.Json
