import TextSocket.Proofs.Json.Skip

/-!
# `Proofs.Json.Typed` — values of a known type in any spelling

A reader that knows what type of value comes may meet any value. **It stops, or it takes exactly that value**
(`readWord_exact`, `readText_exact`): never less of it and never more. A string is taken as the text that it stands for
(`readString_spells`), and one that stands for no text stops its reader (`readString_body`).

## Contents

* `skipBlanks_gap`, `skipBlanks_value`, `readColon_gap` — white space;
* `readUnit_whole`, `readUnit_pair`, `readString_spells`, `Spells.unique` — strings that stand for a text;
* `Stops`, `wrongType_stops` — readers that stop;
* `Settles`, `settles_of_isBody`, `readString_body` — strings of the grammar;
* `Exact`, `readWord_exact`, `readText_exact` — words and texts.
-/

namespace TextSocket.Json

/-! ## White space -/

section gaps

variable {gap : List Char}

theorem skipBlanks_gap (hgap : IsGap gap) (s : List Char) : skipBlanks (gap ++ s) = skipBlanks s := by
  rw [skipBlanks, List.dropWhile_append_of_pos hgap.isBlank]
  rfl

/-- A value is found behind white space. -/
theorem skipBlanks_value {value : List Char} (hgap : IsGap gap) (h : IsJson value) (rest : List Char) :
    skipBlanks (gap ++ (value ++ rest)) = value ++ rest := by
  obtain ⟨c, more, rfl, hblank, -⟩ := begins_isJson h
  rw [skipBlanks_gap hgap, List.cons_append, skipBlanks_cons hblank]

/-- The colon is found behind white space. -/
theorem readColon_gap (hgap : IsGap gap) (s : List Char) : readColon (gap ++ ':' :: s) = .ok s := by
  rw [readColon, skipBlanks_gap hgap, skipBlanks_cons rfl]
  rfl

end gaps

/-! ## Strings -/

theorem readHex4_append {digits : List Char} {n : Nat} (h : IsHex4 digits n) (s : List Char) :
    readHex4 (digits ++ s) = .ok (n, s) := by
  cases h with
  | digits first second third fourth =>
    show readHex4 (_ :: _ :: _ :: _ :: s) = _
    simp only [readHex4, first, second, third, fourth]

theorem isLowHalf_iff {n : Nat} : isLowHalf n = true ↔ 0xDC00 ≤ n ∧ n ≤ 0xDFFF := by
  simp [isLowHalf]

theorem isHighHalf_iff {n : Nat} : isHighHalf n = true ↔ 0xD800 ≤ n ∧ n ≤ 0xDBFF := by
  simp [isHighHalf]

/-- A unit that is a character. -/
theorem readUnit_whole {digits : List Char} {n : Nat} (h : IsHex4 digits n) (hwhole : n < 0xD800 ∨ 0xDFFF < n)
    (s : List Char) : readUnit (digits ++ s) = .ok (Char.ofNat n, s) := by
  have hlow : isLowHalf n = false := by
    rw [Bool.eq_false_iff, ne_eq, isLowHalf_iff]
    omega
  have hhigh : isHighHalf n = false := by
    rw [Bool.eq_false_iff, ne_eq, isHighHalf_iff]
    omega
  simp only [readUnit, readHex4_append h, bind, Except.bind, hlow, hhigh]
  rfl

/-- Two units that are halves of a character. -/
theorem readUnit_pair {high low : List Char} {n m : Nat} (hhigh : IsHex4 high n) (hfirst : 0xD800 ≤ n ∧ n ≤ 0xDBFF)
    (hlow : IsHex4 low m) (hsecond : 0xDC00 ≤ m ∧ m ≤ 0xDFFF) (s : List Char) :
    readUnit (high ++ '\\' :: 'u' :: (low ++ s))
      = .ok (Char.ofNat ((n - 0xD800) * 0x400 + (m - 0xDC00) + 0x10000), s) := by
  have hnot : isLowHalf n = false := by
    rw [Bool.eq_false_iff, ne_eq, isLowHalf_iff]
    omega
  have hyes : isHighHalf n = true := isHighHalf_iff.mpr hfirst
  have hlast : isLowHalf m = true := isLowHalf_iff.mpr hsecond
  simp only [readUnit, readHex4_append hhigh, readHex4_append hlow, bind, Except.bind, hnot, hyes, hlast]
  rfl

/-- The inside of a string is not shorter than the text that it stands for. -/
theorem Spells.length_le {body text : List Char} (h : Spells body text) : text.length ≤ body.length := by
  induction h with
  | nil => exact Nat.le_refl 0
  | plain _ _ _ _ ih => exact Nat.succ_le_succ ih
  | short _ _ ih =>
    simp only [List.length_cons]
    omega
  | unit _ _ _ ih =>
    simp only [List.length_cons, List.length_append]
    omega
  | pair _ _ _ _ _ ih =>
    simp only [List.length_cons, List.length_append]
    omega

/-- What stands for a text is read as that text. -/
theorem readTextFrom_spells {body text : List Char} (h : Spells body text) {fuel : Nat} (enough : text.length < fuel)
    (rest : List Char) : readTextFrom fuel (body ++ '"' :: rest) = .ok (text, rest) := by
  induction h generalizing fuel with
  | nil =>
    obtain ⟨fuel, rfl⟩ : ∃ n, fuel = n + 1 := ⟨fuel - 1, by simp at enough; omega⟩
    rfl
  | @plain c body text hquote hslash hcontrol _ ih =>
    obtain ⟨fuel, rfl⟩ : ∃ n, fuel = n + 1 := ⟨fuel - 1, by simp at enough; omega⟩
    have hshown : isControl c = false := by simpa [isControl] using hcontrol
    rw [List.cons_append, readTextFrom_plain hquote hslash hshown, ih (by simpa using enough)]
    rfl
  | @short e c body text hescape _ ih =>
    obtain ⟨fuel, rfl⟩ : ∃ n, fuel = n + 1 := ⟨fuel - 1, by simp at enough; omega⟩
    obtain ⟨hshort, hunit⟩ := shortEscape?_of_mem hescape
    rw [List.cons_append, List.cons_append, readTextFrom_short hshort hunit, ih (by simpa using enough)]
    rfl
  | @unit digits body text n hdigits hwhole _ ih =>
    obtain ⟨fuel, rfl⟩ : ∃ n, fuel = n + 1 := ⟨fuel - 1, by simp at enough; omega⟩
    rw [List.cons_append, List.cons_append, List.append_assoc, readTextFrom_unit (readUnit_whole hdigits hwhole _),
      ih (by simpa using enough)]
    rfl
  | @pair high low body text n m hhigh hfirst hlow hsecond _ ih =>
    obtain ⟨fuel, rfl⟩ : ∃ n, fuel = n + 1 := ⟨fuel - 1, by simp at enough; omega⟩
    simp only [List.cons_append, List.append_assoc]
    rw [readTextFrom_unit (readUnit_pair hhigh hfirst hlow hsecond _), ih (by simpa using enough)]
    rfl

/-- **A string is read as the text that it stands for.** -/
theorem readString_spells {body text : List Char} (h : Spells body text) (rest : List Char) :
    readString (body ++ '"' :: rest) = .ok (String.ofList text, rest) := by
  have enough : text.length < (body ++ '"' :: rest).length + 1 := by
    have hlength := h.length_le
    rw [List.length_append]
    omega
  rw [readString, readTextFrom_spells h enough]
  rfl

/-- A string stands for one text. -/
theorem Spells.unique {body text other : List Char} (h : Spells body text) (h' : Spells body other) : text = other := by
  have hread := readString_spells h []
  rw [readString_spells h'] at hread
  have htexts := (Prod.mk.inj (Except.ok.inj hread)).1
  rw [String.ofList_injective htexts]

/-! ## Readers that stop -/

/-- A reader has stopped. -/
def Stops {α : Type} (outcome : Except Stuck α) : Prop := ∃ stuck, outcome = .error stuck

section stops

variable {α β : Type} {outcome : Except Stuck α} {next : α → Except Stuck β}

theorem Stops.bind (h : Stops outcome) (next : α → Except Stuck β) : Stops (outcome >>= next) := by
  obtain ⟨stuck, rfl⟩ := h
  exact ⟨stuck, rfl⟩

theorem Stops.of_next (h : ∀ a, Stops (next a)) : Stops (outcome >>= next) := by
  cases outcome with
  | error stuck => exact ⟨stuck, rfl⟩
  | ok a => exact h a

/-- Looking for a value of another type always stops. -/
theorem wrongType_stops (expected : String) (s : List Char) : Stops (wrongType expected s : Except Stuck α) := by
  unfold wrongType
  split
  · exact .of_next fun _ => ⟨_, rfl⟩
  · exact .of_next fun _ => ⟨_, rfl⟩
  · exact .of_next fun _ => ⟨_, rfl⟩
  · exact .of_next fun _ => ⟨_, rfl⟩
  · exact .of_next fun _ => ⟨_, rfl⟩
  · exact ⟨_, rfl⟩
  · exact ⟨_, rfl⟩
  · split
    · exact .of_next fun _ => ⟨_, rfl⟩
    · exact ⟨_, rfl⟩
  · exact ⟨_, rfl⟩

end stops

/-! ## Strings of the grammar -/

section bodies

variable {c : Char} {fuel : Nat} {s rest : List Char}

theorem readTextFrom_unit_stops (h : Stops (readUnit s)) : Stops (readTextFrom fuel ('\\' :: 'u' :: s)) := by
  cases fuel with
  | zero => exact ⟨_, rfl⟩
  | succ fuel =>
    rw [readTextFrom, if_neg (by decide), if_pos rfl]
    obtain ⟨stuck, hstuck⟩ := h
    simp only [↓reduceIte, hstuck, bind, Except.bind]
    exact ⟨stuck, rfl⟩

/-- The second half of a character alone. -/
theorem readUnit_low {digits : List Char} {n : Nat} (h : IsHex4 digits n) (hlow : 0xDC00 ≤ n ∧ n ≤ 0xDFFF)
    (s : List Char) : Stops (readUnit (digits ++ s)) := by
  have hyes : isLowHalf n = true := isLowHalf_iff.mpr hlow
  simp only [readUnit, readHex4_append h, bind, Except.bind, hyes, if_true]
  exact ⟨_, rfl⟩

/-- The first half of a character, with no unit behind it. -/
theorem readUnit_high {digits : List Char} {n : Nat} (h : IsHex4 digits n) (hhigh : 0xD800 ≤ n ∧ n ≤ 0xDBFF)
    (hrest : ∀ more, rest ≠ '\\' :: 'u' :: more) : Stops (readUnit (digits ++ rest)) := by
  have hnot : isLowHalf n = false := by
    rw [Bool.eq_false_iff, ne_eq, isLowHalf_iff]
    omega
  have hyes : isHighHalf n = true := isHighHalf_iff.mpr hhigh
  simp only [readUnit, readHex4_append h, bind, Except.bind, hnot, hyes, if_true, Bool.false_eq_true, if_false]
  split
  · next more => exact absurd rfl (hrest more)
  · exact ⟨_, rfl⟩
  · exact ⟨_, rfl⟩
  · exact ⟨_, rfl⟩
  · exact ⟨_, rfl⟩

/-- The first half of a character, with a unit behind it that is no second half. -/
theorem readUnit_mismatch {high low : List Char} {n m : Nat} (hhigh : IsHex4 high n) (hfirst : 0xD800 ≤ n ∧ n ≤ 0xDBFF)
    (hlow : IsHex4 low m) (hother : ¬ (0xDC00 ≤ m ∧ m ≤ 0xDFFF)) (s : List Char) :
    Stops (readUnit (high ++ '\\' :: 'u' :: (low ++ s))) := by
  have hnot : isLowHalf n = false := by
    rw [Bool.eq_false_iff, ne_eq, isLowHalf_iff]
    omega
  have hyes : isHighHalf n = true := isHighHalf_iff.mpr hfirst
  have hlast : isLowHalf m = false := by
    rw [Bool.eq_false_iff, ne_eq, isLowHalf_iff]
    exact hother
  simp only [readUnit, readHex4_append hhigh, readHex4_append hlow, bind, Except.bind, hnot, hyes, hlast, if_true,
    Bool.false_eq_true, if_false]
  exact ⟨_, rfl⟩

/-- The inside of a string stands for a text, or stops its reader. -/
def Settles (body : List Char) : Prop :=
  (∃ text, Spells body text) ∨ ∀ fuel rest, Stops (readTextFrom fuel (body ++ '"' :: rest))

/-- One more character in front. -/
theorem settles_step {body more : List Char} (hspells : ∀ text, Spells body text → Spells more (c :: text))
    (hread : ∀ fuel rest, readTextFrom (fuel + 1) (more ++ '"' :: rest)
      = (readTextFrom fuel (body ++ '"' :: rest)).map fun read => (c :: read.1, read.2))
    (h : Settles body) : Settles more := by
  rcases h with ⟨text, htext⟩ | hstops
  · exact Or.inl ⟨c :: text, hspells text htext⟩
  · right
    intro fuel rest
    cases fuel with
    | zero => exact ⟨_, rfl⟩
    | succ fuel =>
      obtain ⟨stuck, hstuck⟩ := hstops fuel rest
      rw [hread, hstuck]
      exact ⟨stuck, rfl⟩

/-- A unit at which its reader stops. -/
theorem settles_of_stops {digits body : List Char} (h : ∀ rest, Stops (readUnit (digits ++ (body ++ '"' :: rest)))) :
    Settles ('\\' :: 'u' :: (digits ++ body)) := by
  right
  intro fuel rest
  rw [List.cons_append, List.cons_append, List.append_assoc]
  exact readTextFrom_unit_stops (h rest)

/-- The first half of a character: what stands behind it decides. -/
theorem settles_high {digits body : List Char} {n : Nat} (hdigits : IsHex4 digits n) (hhigh : 0xD800 ≤ n ∧ n ≤ 0xDBFF)
    (hbody : IsBody body) (h : ∀ more, more.length < body.length → IsBody more → Settles more) :
    Settles ('\\' :: 'u' :: (digits ++ body)) := by
  cases hbody with
  | @unit low body m hlow hbody =>
    by_cases hsecond : 0xDC00 ≤ m ∧ m ≤ 0xDFFF
    · have hless : body.length < ('\\' :: 'u' :: (low ++ body)).length := by
        simp only [List.length_cons, List.length_append]
        omega
      refine settles_step (fun _ htext => .pair hdigits hhigh hlow hsecond htext) ?_ (h body hless hbody)
      intro fuel rest
      simp only [List.cons_append, List.append_assoc]
      exact readTextFrom_unit (readUnit_pair hdigits hhigh hlow hsecond _)
    · apply settles_of_stops
      intro rest
      simp only [List.cons_append, List.append_assoc]
      exact readUnit_mismatch hdigits hhigh hlow hsecond _
  | nil =>
    apply settles_of_stops
    intro rest
    apply readUnit_high hdigits hhigh
    rintro more ⟨⟩
  | plain hquote hslash hcontrol hbody =>
    apply settles_of_stops
    intro rest
    apply readUnit_high hdigits hhigh
    intro more heq
    exact hslash (List.cons.inj heq).1
  | short hescape hbody =>
    apply settles_of_stops
    intro rest
    apply readUnit_high hdigits hhigh
    intro more heq
    exact (shortEscape?_of_mem hescape).2 (List.cons.inj (List.cons.inj heq).2).1

/-- **The inside of every string stands for a text, or stops its reader.** -/
theorem settles_of_isBody {body : List Char} (h : IsBody body) : Settles body := by
  -- the induction is on the length, since a character may take two units
  induction hn : body.length using Nat.strongRecOn generalizing body with
  | ind n ih =>
    subst hn
    have hshorter : ∀ more, more.length < body.length → IsBody more → Settles more :=
      fun more hless hmore => ih more.length hless hmore rfl
    cases h with
    | nil => exact Or.inl ⟨[], .nil⟩
    | @plain c body hquote hslash hcontrol hbody =>
      have hshown : isControl c = false := by simpa [isControl] using hcontrol
      refine settles_step (fun _ htext => .plain hquote hslash hcontrol htext) ?_
        (hshorter _ (Nat.lt_succ_self _) hbody)
      intro fuel rest
      exact readTextFrom_plain hquote hslash hshown
    | @short e c body hescape hbody =>
      obtain ⟨hshort, hunit⟩ := shortEscape?_of_mem hescape
      have hless : body.length < ('\\' :: e :: body).length := by
        simp only [List.length_cons]
        omega
      refine settles_step (fun _ htext => .short hescape htext) ?_ (hshorter _ hless hbody)
      intro fuel rest
      exact readTextFrom_short hshort hunit
    | @unit digits body n hdigits hbody =>
      have hless : body.length < ('\\' :: 'u' :: (digits ++ body)).length := by
        simp only [List.length_cons, List.length_append]
        omega
      by_cases hlow : 0xDC00 ≤ n ∧ n ≤ 0xDFFF
      · apply settles_of_stops
        intro rest
        exact readUnit_low hdigits hlow _
      by_cases hhigh : 0xD800 ≤ n ∧ n ≤ 0xDBFF
      · exact settles_high hdigits hhigh hbody fun more hmore => hshorter more (Nat.lt_trans hmore hless)
      · have hwhole : n < 0xD800 ∨ 0xDFFF < n := by omega
        refine settles_step (fun _ htext => .unit hdigits hwhole htext) ?_ (hshorter _ hless hbody)
        intro fuel rest
        rw [List.cons_append, List.cons_append, List.append_assoc]
        exact readTextFrom_unit (readUnit_whole hdigits hwhole _)

/-- **A string of the grammar is read as the text that it stands for, or stops its reader.** -/
theorem readString_body {body : List Char} (h : IsBody body) :
    (∃ text, Spells body text) ∨ ∀ rest, Stops (readString (body ++ '"' :: rest)) := by
  rcases settles_of_isBody h with htext | hstops
  · exact Or.inl htext
  · exact Or.inr fun rest => (hstops _ rest).bind _

end bodies

/-! ## Words and texts -/

/-- **A reader stops, or takes a value and leaves what stands behind it.** -/
def Exact {α : Type} (rest : List Char) (outcome : Except Stuck (α × List Char)) : Prop :=
  Stops outcome ∨ ∃ a, outcome = .ok (a, rest)

section typed

variable {c : Char} {s more rest : List Char}

/-- A word behind white space. -/
theorem readWord_gap (expected : String) {gap : List Char} (hgap : IsGap gap) (s : List Char) :
    readWord expected (gap ++ s) = readWord expected s := by
  unfold readWord
  rw [skipBlanks_gap hgap]

/-- A string behind white space is read as the text that it stands for. -/
theorem readText_spells (expected : String) {gap body text : List Char} (hgap : IsGap gap) (h : Spells body text)
    (rest : List Char) :
    readText expected (gap ++ ('"' :: (body ++ '"' :: rest))) = .ok (String.ofList text, rest) := by
  rw [readText, skipBlanks_gap hgap, skipBlanks_cons rfl]
  exact readString_spells h rest

/-- A number that is read as a natural one is over with its digits. -/
theorem readNumber_natural {n : Nat} (h : readNumber true s = .ok (.natural n, rest)) :
    rest = s.dropWhile Char.isDigit ∧ ∀ d ∈ rest.head?, d ≠ '.' ∧ d ≠ 'e' ∧ d ≠ 'E' := by
  have hreal (outcome : Except Stuck (Float × List Char)) :
      outcome.map (·.map Number.real id) ≠ .ok (.natural n, rest) := by
    cases outcome with
    | error stuck => exact nofun
    | ok read => exact nofun
  unfold readNumber at h
  split at h
  · cases h
  · next c more =>
    split at h
    · cases h
    · split at h
      · dsimp only at h
        split at h
        · exact absurd h (hreal _)
        · next hpoint =>
          split at h
          · exact absurd h (hreal _)
          · next hlong =>
            rw [if_pos rfl] at h
            cases h
            refine ⟨rfl, ?_⟩
            intro d hd
            refine ⟨?_, ?_, ?_⟩
            · rintro rfl
              obtain ⟨tail, htail⟩ := List.head?_eq_some_iff.mp hd
              exact hpoint tail htail
            · rintro rfl
              exact hlong (Or.inr (Or.inl hd))
            · rintro rfl
              exact hlong (Or.inr (Or.inr hd))
      · cases h

/-- A word begins with a digit. -/
theorem readWord_stops (expected : String) (hskip : skipBlanks s = c :: more) (hdigit : c.isDigit = false) :
    Stops (readWord expected s) := by
  unfold readWord
  rw [hskip]
  split
  · exact ⟨_, rfl⟩
  · apply Stops.of_next
    rintro ⟨n, rest⟩
    cases n with
    | natural n => exact ⟨_, rfl⟩
    | negative n => exact ⟨_, rfl⟩
    | real x => exact ⟨_, rfl⟩
  · next heq =>
    cases heq
    rw [if_neg (by simp [hdigit])]
    exact wrongType_stops expected _

/-- A word ends in front of what continues no number. -/
theorem readWord_digit (expected : String) (hskip : skipBlanks s = c :: more) (hdigit : c.isDigit = true)
    (hrest : ∀ n left, readNumber true (c :: more) = .ok (.natural n, left) → left = rest) :
    Exact rest (readWord expected s) := by
  unfold readWord
  rw [hskip]
  split
  · exact Or.inl ⟨_, rfl⟩
  · next heq =>
    cases heq
    cases hdigit
  · next heq =>
    cases heq
    rw [if_pos hdigit]
    cases hread : readNumber true (c :: more) with
    | error stuck => exact Or.inl ⟨stuck, rfl⟩
    | ok read =>
      obtain ⟨n, left⟩ := read
      cases n with
      | natural n =>
        obtain rfl := hrest n left hread
        exact Or.inr ⟨UInt64.ofNat n, rfl⟩
      | negative n => exact Or.inl ⟨_, rfl⟩
      | real x => exact Or.inl ⟨_, rfl⟩

/-- Behind the digits in front of a point there is no digit. -/
theorem dropWhile_whole {whole fraction exponent : List Char} (hwhole : IsWhole whole) (hfraction : IsFraction fraction)
    (hexponent : IsExponent exponent) (hrest : Closed rest) :
    (whole ++ (fraction ++ (exponent ++ rest))).dropWhile Char.isDigit = fraction ++ (exponent ++ rest) := by
  obtain ⟨-, -, -, hdigits⟩ := hwhole.digits_all
  rw [List.dropWhile_append_of_pos hdigits]
  cases hfraction with
  | some _ => rfl
  | none =>
    cases hexponent with
    | none => exact @dropWhile_isDigit [] rest nofun hrest
    | some hletter _ _ =>
      rcases hletter with rfl | rfl
      · rfl
      · rfl

/-- **A word is read from a value exactly, or not at all.** -/
theorem readWord_exact (expected : String) {gap value : List Char} (hgap : IsGap gap) (h : IsJson value)
    (hrest : Closed rest) : Exact rest (readWord expected (gap ++ (value ++ rest))) := by
  have hskip := skipBlanks_value hgap h rest
  cases h with
  | null => exact Or.inl (readWord_stops expected hskip rfl)
  | true => exact Or.inl (readWord_stops expected hskip rfl)
  | false => exact Or.inl (readWord_stops expected hskip rfl)
  | string _ => exact Or.inl (readWord_stops expected hskip rfl)
  | list _ _ _ => exact Or.inl (readWord_stops expected hskip rfl)
  | object _ _ _ _ => exact Or.inl (readWord_stops expected hskip rfl)
  | number htext =>
    cases htext with
    | @parts sign whole fraction exponent hsign hwhole hfraction hexponent =>
      rcases hsign with rfl | rfl
      · have hleft := dropWhile_whole hwhole hfraction hexponent hrest
        obtain ⟨c, more, rfl, hdigits⟩ := hwhole.digits_all
        simp only [List.nil_append, List.append_assoc] at hskip ⊢
        refine readWord_digit expected hskip (hdigits c List.mem_cons_self) ?_
        intro n left hread
        obtain ⟨hdrop, hhead⟩ := readNumber_natural hread
        obtain rfl : left = fraction ++ (exponent ++ rest) := hdrop.trans hleft
        -- a natural number has neither a fraction nor an exponent
        cases hfraction with
        | some _ => exact absurd rfl (hhead '.' rfl).1
        | none =>
          cases hexponent with
          | none => rfl
          | some hletter _ _ =>
            rcases hletter with rfl | rfl
            · exact absurd rfl (hhead 'e' rfl).2.1
            · exact absurd rfl (hhead 'E' rfl).2.2
      · exact Or.inl (readWord_stops expected hskip rfl)

/-- **A text is read from a value exactly, or not at all.** -/
theorem readText_exact (expected : String) {gap value : List Char} (hgap : IsGap gap) (h : IsJson value)
    (rest : List Char) : Exact rest (readText expected (gap ++ (value ++ rest))) := by
  have hskip := skipBlanks_value hgap h rest
  have hother {c : Char} {more : List Char} (heq : value ++ rest = c :: more) (hquote : c ≠ '"') :
      Stops (readText expected (gap ++ (value ++ rest))) := by
    unfold readText
    rw [hskip, heq]
    split
    · exact ⟨_, rfl⟩
    · next hfirst => exact absurd (List.cons.inj hfirst).1 hquote
    · exact wrongType_stops expected _
  cases h with
  | null => exact Or.inl (hother rfl (by decide))
  | true => exact Or.inl (hother rfl (by decide))
  | false => exact Or.inl (hother rfl (by decide))
  | list _ _ _ => exact Or.inl (hother rfl (by decide))
  | object _ _ _ _ => exact Or.inl (hother rfl (by decide))
  | number htext =>
    obtain ⟨c, more, rfl, hhead⟩ := htext.head
    refine Or.inl (hother rfl ?_)
    rintro rfl
    exact absurd hhead (by decide)
  | @string body hbody =>
    have hread : readText expected (gap ++ ('"' :: (body ++ ['"']) ++ rest)) = readString (body ++ '"' :: rest) := by
      unfold readText
      rw [hskip, List.cons_append, List.append_assoc, List.singleton_append]
      rfl
    rw [hread]
    rcases readString_body hbody with ⟨text, htext⟩ | hstops
    · exact Or.inr ⟨String.ofList text, readString_spells htext rest⟩
    · exact Or.inl (hstops rest)

end typed

end TextSocket.Json
