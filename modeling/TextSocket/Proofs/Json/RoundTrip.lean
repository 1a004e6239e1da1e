import Mathlib.Tactic.SplitIfs
import TextSocket.Json.Reader
import TextSocket.Json.Writer

/-!
# `Proofs.Json.RoundTrip` — what is written is read back

Each writer has its reader, and the reader stops where the writer stopped, whatever follows. A string ends with
its quote and an object with its brace; a number ends only at a character that continues none, so what stands
behind it has to say so (`Closed`).

## Contents

* `readTextFrom_writeChar`, `readText_writeChars` — one character, and a string;
* `Closed`, `readNumber_toDigits`, `readWord_writeWord` — what may stand behind a value; numbers and words;
* `Reads`, `readObject_writeMembers` — an object, from what the reader of its members does with each of them.
-/

namespace TextSocket.Json

/-! ## Strings -/

theorem hexValue?_hexDigit : ∀ n < 16, Bytes.hexValue? (Bytes.hexDigit n) = some n := by decide

/-- The unit escape of a control character. -/
theorem readUnit_hex {n : Nat} (h : n < 32) (rest : List Char) :
    readUnit ('0' :: '0' :: Bytes.hexDigit (n / 16) :: Bytes.hexDigit (n % 16) :: rest)
      = .ok (Char.ofNat n, rest) := by
  have zero : Bytes.hexValue? '0' = some 0 := rfl
  have value : ((0 * 16 + 0) * 16 + n / 16) * 16 + n % 16 = n := by omega
  have high : isHighHalf n = false := by simp [isHighHalf]; omega
  have low : isLowHalf n = false := by simp [isLowHalf]; omega
  simp only [readUnit, readHex4, zero, hexValue?_hexDigit (n / 16) (by omega),
    hexValue?_hexDigit (n % 16) (by omega), value]
  simp only [bind, Except.bind, high, low]
  rfl

section Characters

variable {c : Char} {fuel : Nat} {rest : List Char}

theorem readTextFrom_plain (hquote : c ≠ '"') (hslash : c ≠ '\\') (hcontrol : isControl c = false) :
    readTextFrom (fuel + 1) (c :: rest) = (readTextFrom fuel rest).map fun read => (c :: read.1, read.2) := by
  simp only [readTextFrom, if_neg hquote, if_neg hslash, hcontrol]
  cases readTextFrom fuel rest <;> rfl

theorem readTextFrom_short {e : Char} (hshort : shortEscape? e = some c) (hunit : e ≠ 'u') :
    readTextFrom (fuel + 1) ('\\' :: e :: rest)
      = (readTextFrom fuel rest).map fun read => (c :: read.1, read.2) := by
  rw [readTextFrom, if_neg (by decide), if_pos rfl]
  simp only [if_neg hunit, hshort, bind, Except.bind]
  cases readTextFrom fuel rest <;> rfl

theorem readTextFrom_unit {s : List Char} (hunit : readUnit s = .ok (c, rest)) :
    readTextFrom (fuel + 1) ('\\' :: 'u' :: s)
      = (readTextFrom fuel rest).map fun read => (c :: read.1, read.2) := by
  rw [readTextFrom, if_neg (by decide), if_pos rfl]
  simp only [↓reduceIte, hunit, bind, Except.bind]
  cases readTextFrom fuel rest <;> rfl

/-- **A character is read back from its form within a string**, at the cost of one unit of fuel. -/
theorem readTextFrom_writeChar :
    readTextFrom (fuel + 1) (writeChar c ++ rest)
      = (readTextFrom fuel rest).map fun read => (c :: read.1, read.2) := by
  unfold writeChar
  split_ifs with quote slash backspace formFeed newline carriage tab control
  · subst quote
    exact readTextFrom_short rfl (by decide)
  · subst slash
    exact readTextFrom_short rfl (by decide)
  · subst backspace
    exact readTextFrom_short rfl (by decide)
  · subst formFeed
    exact readTextFrom_short rfl (by decide)
  · subst newline
    exact readTextFrom_short rfl (by decide)
  · subst carriage
    exact readTextFrom_short rfl (by decide)
  · subst tab
    exact readTextFrom_short rfl (by decide)
  · exact readTextFrom_unit (by simpa using readUnit_hex control rest)
  · exact readTextFrom_plain quote slash (by simpa [isControl] using control)

end Characters

theorem readTextFrom_flatMap {cs : List Char} {fuel : Nat} (h : cs.length < fuel) (rest : List Char) :
    readTextFrom fuel (cs.flatMap writeChar ++ '"' :: rest) = .ok (cs, rest) := by
  induction cs generalizing fuel with
  | nil =>
    obtain ⟨fuel, rfl⟩ : ∃ n, fuel = n + 1 := ⟨fuel - 1, by simp at h; omega⟩
    rfl
  | cons c cs ih =>
    obtain ⟨fuel, rfl⟩ : ∃ n, fuel = n + 1 := ⟨fuel - 1, by simp at h; omega⟩
    rw [List.flatMap_cons, List.append_assoc, readTextFrom_writeChar, ih (by simpa using h)]
    rfl

theorem writeChar_ne_nil (c : Char) : writeChar c ≠ [] := by
  unfold writeChar
  split_ifs <;> simp

theorem length_le_length_flatMap (cs : List Char) : cs.length ≤ (cs.flatMap writeChar).length := by
  induction cs with
  | nil => simp
  | cons c cs ih =>
    have := List.length_pos_iff.2 (writeChar_ne_nil c)
    rw [List.flatMap_cons, List.length_append, List.length_cons]
    omega

/-- **A string is read back** behind its opening quote. -/
theorem readString_flatMap (text : String) (rest : List Char) :
    readString (text.toList.flatMap writeChar ++ '"' :: rest) = .ok (text, rest) := by
  have enough := length_le_length_flatMap text.toList
  have hread : readTextFrom ((text.toList.flatMap writeChar ++ '"' :: rest).length + 1)
      (text.toList.flatMap writeChar ++ '"' :: rest) = .ok (text.toList, rest) :=
    readTextFrom_flatMap (by rw [List.length_append]; omega) rest
  rw [readString, hread]
  simp [bind, Except.bind]

theorem skipBlanks_cons {c : Char} (h : isBlank c = false) (s : List Char) :
    skipBlanks (c :: s) = c :: s := by
  simp [skipBlanks, h]

/-- **A string is read back.** -/
theorem readText_writeChars (expected text : String) (rest : List Char) :
    readText expected (writeChars text ++ rest) = .ok (text, rest) := by
  have hquote : writeChars text ++ rest = '"' :: (text.toList.flatMap writeChar ++ '"' :: rest) := by
    simp [writeChars]
  rw [hquote, readText, skipBlanks_cons rfl]
  exact readString_flatMap text rest

/-! ## Words -/

/-- What may stand behind a value: nothing that continues a number. -/
def Closed (rest : List Char) : Prop :=
  ∀ c ∈ rest.head?, c.isDigit = false ∧ c ≠ '.' ∧ c ≠ 'e' ∧ c ≠ 'E'

theorem closed_cons {c : Char} (h : c.isDigit = false ∧ c ≠ '.' ∧ c ≠ 'e' ∧ c ≠ 'E') (rest : List Char) :
    Closed (c :: rest) := by
  intro d hd
  obtain rfl : c = d := by simpa using hd
  exact h

theorem le_ofDigitChars (cs : List Char) (n : Nat) : n ≤ Nat.ofDigitChars 10 cs n := by
  induction cs generalizing n with
  | nil => exact Nat.le_refl n
  | cons c cs ih =>
    have step : Nat.ofDigitChars 10 (c :: cs) n = Nat.ofDigitChars 10 cs (10 * n + (c.toNat - 48)) := rfl
    have := ih (10 * n + (c.toNat - 48))
    omega

/-- Digits are absorbed to the last one if their number fits into 64 bits. -/
theorem absorb_of_le {cs : List Char} {n : Nat} (h : Nat.ofDigitChars 10 cs n ≤ maxWord) :
    absorb n cs = (Nat.ofDigitChars 10 cs n, 0) := by
  induction cs generalizing n with
  | nil => rfl
  | cons c cs ih =>
    have step : Nat.ofDigitChars 10 (c :: cs) n = Nat.ofDigitChars 10 cs (n * 10 + (c.toNat - 48)) := by
      rw [Nat.mul_comm]
      rfl
    rw [step] at h ⊢
    have fits := Nat.le_trans (le_ofDigitChars cs _) h
    -- a part of the digits is not greater than all of them, so it fits as well
    simp only [absorb, if_pos fits]
    exact ih h

/-- The digits of a number start with no zero unless they are one digit. -/
theorem toDigits_eq_cons (n : Nat) :
    ∃ c cs, Nat.toDigits 10 n = c :: cs ∧ c.isDigit = true ∧ (c = '0' → cs = []) := by
  induction n using Nat.strongRecOn with
  | _ n ih =>
    by_cases h : n < 10
    · refine ⟨n.digitChar, [], Nat.toDigits_of_lt_base h, ?_, fun _ => rfl⟩
      exact Nat.isDigit_of_mem_toDigits (by decide) (by decide) (Nat.toDigits_of_lt_base h ▸ List.mem_singleton_self _)
    · have split := Nat.toDigits_of_base_le (b := 10) (by decide) (Nat.le_of_not_lt h)
      obtain ⟨c, cs, hdigits, hc, hzero⟩ := ih (n / 10) (by omega)
      rw [hdigits] at split
      refine ⟨c, cs ++ [(n % 10).digitChar], split, hc, fun h0 => absurd ?_ (by omega : ¬ n / 10 = 0)⟩
      -- a single zero is the number zero
      have value : Nat.ofDigitChars 10 (Nat.toDigits 10 (n / 10)) 0 = n / 10 := Nat.ofDigitChars_ten_toDigits
      rw [hdigits, hzero h0, h0] at value
      exact value.symm

section Digits

variable {ds rest : List Char}

theorem takeWhile_isDigit (hds : ∀ c ∈ ds, c.isDigit = true) (hrest : Closed rest) :
    (ds ++ rest).takeWhile Char.isDigit = ds := by
  rw [List.takeWhile_append_of_pos hds]
  cases rest with
  | nil => simp
  | cons c rest => simp [(hrest c rfl).1]

theorem dropWhile_isDigit (hds : ∀ c ∈ ds, c.isDigit = true) (hrest : Closed rest) :
    (ds ++ rest).dropWhile Char.isDigit = rest := by
  rw [List.dropWhile_append_of_pos hds]
  cases rest with
  | nil => rfl
  | cons c rest => simp [(hrest c rfl).1]

end Digits

/-- **A number is read back** if nothing behind it continues it. -/
theorem readNumber_toDigits {n : Nat} (h : n ≤ maxWord) {rest : List Char} (hrest : Closed rest) :
    readNumber true (Nat.toDigits 10 n ++ rest) = .ok (.natural n, rest) := by
  have digits : ∀ c ∈ Nat.toDigits 10 n, c.isDigit = true := fun c hc =>
    Nat.isDigit_of_mem_toDigits (by decide) (by decide) hc
  have value : Nat.ofDigitChars 10 (Nat.toDigits 10 n) 0 = n := Nat.ofDigitChars_ten_toDigits
  have taken := takeWhile_isDigit digits hrest
  have dropped := dropWhile_isDigit digits hrest
  have absorbed : absorb 0 (Nat.toDigits 10 n) = (Nat.ofDigitChars 10 (Nat.toDigits 10 n) 0, 0) :=
    absorb_of_le (value.symm ▸ h)
  rw [value] at absorbed
  obtain ⟨c, cs, hdigits, hc, hzero⟩ := toDigits_eq_cons n
  -- a leading zero is the whole number, and what follows is no digit
  have single : ¬ (c = '0' ∧ ((cs ++ rest).head?.any Char.isDigit) = true) := by
    rintro ⟨h0, hnext⟩
    rw [hzero h0, List.nil_append] at hnext
    obtain ⟨some, hdigit⟩ := (Option.any_eq_true_iff_get ..).1 hnext
    simp [(hrest _ (Option.get_mem some)).1] at hdigit
  -- nor is there an exponent behind it
  have power : ¬ ((0 : Nat) ≠ 0 ∨ rest.head? = some 'e' ∨ rest.head? = some 'E') := by
    rintro (h0 | he | he)
    · exact h0 rfl
    · exact (hrest _ he).2.2.1 rfl
    · exact (hrest _ he).2.2.2 rfl
  rw [hdigits] at taken dropped absorbed ⊢
  rw [List.cons_append] at taken dropped ⊢
  simp only [readNumber, if_neg single, if_pos hc, taken, dropped, absorbed]
  split
  case h_1 fraction => exact absurd rfl (hrest _ rfl).2.1
  case h_2 => rw [if_neg power, if_pos trivial]

/-- **A word is read back** if nothing behind it continues it. -/
theorem readWord_writeWord (expected : String) (n : UInt64) {rest : List Char} (hrest : Closed rest) :
    readWord expected (writeWord n ++ rest) = .ok (n, rest) := by
  have fits : n.toNat ≤ maxWord := Nat.le_of_lt_succ n.toNat_lt
  have hread := readNumber_toDigits fits hrest
  obtain ⟨c, cs, hdigits, hc, -⟩ := toDigits_eq_cons n.toNat
  have blank : isBlank c = false := by
    simp only [isBlank, Bool.or_eq_false_iff, decide_eq_false_iff_not]
    refine ⟨⟨⟨?_, ?_⟩, ?_⟩, ?_⟩ <;> (rintro rfl; simp at hc)
  rw [writeWord, hdigits, List.cons_append, readWord, skipBlanks_cons blank]
  rw [hdigits, List.cons_append] at hread
  split
  case h_1 hnil => cases hnil
  case h_2 hminus => simp only [List.cons.injEq] at hminus; simp [hminus.1] at hc
  case h_3 d ds hsome =>
    cases hsome
    rw [if_pos hc, hread]
    simp [bind, Except.bind]

/-! ## Objects -/

/-- The reader of an object's members takes `members` in order, from the first state to the second, whatever
    follows each of them. -/
inductive Reads {σ : Type} (member : σ → String → Reader σ) : σ → List (String × List Char) → σ → Prop where
  /-- No members. -/
  | nil (state : σ) : Reads member state [] state
  /-- One member, and those behind it. -/
  | cons {state next last : σ} {key : String} {value : List Char} {members : List (String × List Char)}
      (head : ∀ rest, Closed rest → member state key (':' :: value ++ rest) = .ok (next, rest))
      (tail : Reads member next members last) :
      Reads member state ((key, value) :: members) last

/-- Members behind the comma that separates them from those before. -/
def writeMore (members : List (String × List Char)) : List Char :=
  members.flatMap fun m => ',' :: writeChars m.1 ++ ':' :: m.2

theorem writeMembers_cons (key : String) (value : List Char) (members : List (String × List Char)) :
    writeMembers ((key, value) :: members) = writeChars key ++ ':' :: value ++ writeMore members := by
  induction members generalizing key value with
  | nil => simp [writeMembers, writeMore]
  | cons m members ih =>
    obtain ⟨k, v⟩ := m
    have more : writeMore ((k, v) :: members) = ',' :: (writeChars k ++ ':' :: v ++ writeMore members) := by
      simp [writeMore]
    rw [writeMembers, ih, more]
    intro h
    cases h

theorem length_le_length_writeMore (members : List (String × List Char)) :
    members.length ≤ (writeMore members).length := by
  induction members with
  | nil => simp
  | cons m members ih =>
    simp only [writeMore, List.flatMap_cons, List.length_append, List.length_cons] at ih ⊢
    omega

theorem closed_writeMore (members : List (String × List Char)) (rest : List Char) :
    Closed (writeMore members ++ '\x7d' :: rest) := by
  cases members with
  | nil => exact closed_cons (by decide) rest
  | cons m members => exact closed_cons (by decide) _

section Objects

variable {σ : Type} {member : σ → String → Reader σ}

theorem readMembers_close (fuel : Nat) (first : Bool) (state : σ) (rest : List Char) :
    readMembers member (fuel + 1) first state ('\x7d' :: rest) = .ok (state, rest) := by
  simp [readMembers, skipBlanks_cons (show isBlank '\x7d' = false from rfl)]

/-- The first member of an object. -/
theorem readMembers_first {state next : σ} {key : String} {s rest : List Char}
    (h : member state key s = .ok (next, rest)) (fuel : Nat) :
    readMembers member (fuel + 1) true state (writeChars key ++ s)
      = readMembers member fuel false next rest := by
  have hkey := readString_flatMap key s
  have hwrite : writeChars key ++ s = '"' :: (key.toList.flatMap writeChar ++ '"' :: s) := by simp [writeChars]
  rw [hwrite]
  simp [readMembers, skipBlanks_cons (show isBlank '"' = false from rfl), hkey, h, bind, Except.bind]

/-- A further member of an object. -/
theorem readMembers_next {state next : σ} {key : String} {s rest : List Char}
    (h : member state key s = .ok (next, rest)) (fuel : Nat) :
    readMembers member (fuel + 1) false state (',' :: (writeChars key ++ s))
      = readMembers member fuel false next rest := by
  have hkey := readString_flatMap key s
  have hwrite : writeChars key ++ s = '"' :: (key.toList.flatMap writeChar ++ '"' :: s) := by simp [writeChars]
  rw [hwrite]
  simp [readMembers, skipBlanks_cons (show isBlank ',' = false from rfl),
    skipBlanks_cons (show isBlank '"' = false from rfl), hkey, h, bind, Except.bind]

theorem readMembers_writeMore {state last : σ} {members : List (String × List Char)}
    (h : Reads member state members last) {fuel : Nat} (enough : members.length < fuel) (rest : List Char) :
    readMembers member fuel false state (writeMore members ++ '\x7d' :: rest) = .ok (last, rest) := by
  induction h generalizing fuel with
  | nil state =>
    obtain ⟨fuel, rfl⟩ : ∃ n, fuel = n + 1 := ⟨fuel - 1, by simp at enough; omega⟩
    exact readMembers_close fuel false state rest
  | @cons state next last key value members head tail ih =>
    obtain ⟨fuel, rfl⟩ : ∃ n, fuel = n + 1 := ⟨fuel - 1, by simp at enough; omega⟩
    -- what stands behind the value is a comma or the closing brace, so the value ends there
    have shape : writeMore ((key, value) :: members) ++ '\x7d' :: rest
        = ',' :: (writeChars key ++ (':' :: value ++ (writeMore members ++ '\x7d' :: rest))) := by
      simp [writeMore]
    rw [shape, readMembers_next (head _ (closed_writeMore members rest))]
    exact ih (by simpa using enough)

/-- **An object is read back** behind its opening brace, by a reader that takes its members. -/
theorem readObject_writeMembers {state last : σ} {members : List (String × List Char)}
    (h : Reads member state members last) (rest : List Char) :
    readObject member state (writeMembers members ++ '\x7d' :: rest) = .ok (last, rest) := by
  cases h with
  | nil state => exact readMembers_close _ true _ rest
  | @cons _ next _ key value members head tail =>
    have enough := length_le_length_writeMore members
    have shape : writeMembers ((key, value) :: members) ++ '\x7d' :: rest
        = writeChars key ++ (':' :: value ++ (writeMore members ++ '\x7d' :: rest)) := by
      simp [writeMembers_cons]
    rw [shape, readObject, readMembers_first (head _ (closed_writeMore members rest))]
    exact readMembers_writeMore tail (by simp only [List.length_append, List.length_cons]; omega) rest

end Objects

end TextSocket.Json
