import TextSocket.Json.Skip
import TextSocket.Proofs.Json.Grammar

/-!
# `Proofs.Json.Skip` — a value is passed over

The machine that passes over values goes by single characters and knows of the text only which brackets are open. **It
passes over every value of the grammar and stops behind it** (`skips_of_isJson`), however deeply the value is nested and
whatever stands behind it, as long as that does not continue a number.

## Contents

* `skipFrom_go`, `skipFrom_run`, `skipFrom_gap` — single characters, and runs of them;
* `skipFrom_body`, `skipFrom_fraction`, `skipFrom_number` — strings and numbers;
* `Skips`, `skips_list`, `skips_object` — brackets, from what stands between them;
* `skips_of_isJson`, `skipValue_append` — every value.
-/

namespace TextSocket.Json

variable {stack stack' : List Opened} {spot spot' : Spot} {c : Char} {rest : List Char}

/-! ## Single characters, and runs of them -/

/-- A value that is complete is not looked into. -/
theorem skipFrom_done (rest : List Char) : skipFrom [] .done rest = .ok rest := by
  cases rest with
  | nil => rfl
  | cons c rest => rfl

/-- A character that is passed. -/
theorem skipFrom_go (hopen : stack = [] → spot ≠ .done) (h : advance stack spot c = .go stack' spot')
    (rest : List Char) : skipFrom stack spot (c :: rest) = skipFrom stack' spot' rest := by
  rw [skipFrom]
  · rw [h]
  · exact hopen

/-- A run of characters that change nothing. -/
theorem skipFrom_run {run : List Char} (hopen : stack = [] → spot ≠ .done)
    (h : ∀ c ∈ run, advance stack spot c = .go stack spot) (rest : List Char) :
    skipFrom stack spot (run ++ rest) = skipFrom stack spot rest := by
  induction run with
  | nil => rfl
  | cons c run ih =>
    obtain ⟨hc, hrun⟩ := List.forall_mem_cons.mp h
    rw [List.cons_append, skipFrom_go hopen hc, ih hrun]

/-- Where white space changes nothing. -/
def Waits (stack : List Opened) : Spot → Prop
  | .value | .firstElement | .firstKey | .key | .colon => True
  | .done => stack ≠ []
  | _ => False

theorem advance_blank (hwaits : Waits stack spot) (hblank : isBlank c = true) :
    advance stack spot c = .go stack spot := by
  cases spot with
  | value => simp [advance, advanceValue, hblank]
  | firstElement => simp [advance, hblank]
  | firstKey =>
    have hbrace : c ≠ '\x7d' := by
      rintro rfl
      cases hblank
    simp [advance, advanceKey, hblank, hbrace]
  | key => simp [advance, advanceKey, hblank]
  | colon => simp [advance, hblank]
  | done =>
    obtain ⟨top, below, rfl⟩ := List.exists_cons_of_ne_nil hwaits
    simp [advance, advanceDone, hblank]
  | _ => exact absurd hwaits id

/-- White space is passed. -/
theorem skipFrom_gap {gap : List Char} (hwaits : Waits stack spot) (hgap : IsGap gap) (rest : List Char) :
    skipFrom stack spot (gap ++ rest) = skipFrom stack spot rest := by
  apply skipFrom_run
  · rintro rfl rfl
    exact hwaits rfl
  · intro c hc
    exact advance_blank hwaits (hgap.isBlank c hc)

/-! ## Strings -/

/-- The digits of a unit are passed. -/
theorem skipFrom_hex4 {digits : List Char} {n : Nat} (h : IsHex4 digits n) (isKey : Bool) (rest : List Char) :
    skipFrom stack (.hex isKey 4) (digits ++ rest) = skipFrom stack (.string isKey) rest := by
  have step {d : Char} {v : Nat} (hd : Bytes.hexValue? d = some v) (left : Nat) (rest : List Char) :
      skipFrom stack (.hex isKey left) (d :: rest)
        = skipFrom stack (if left ≤ 1 then .string isKey else .hex isKey (left - 1)) rest := by
    apply skipFrom_go
    · exact fun _ => Spot.noConfusion
    · simp [advance, hd]
  cases h with
  | digits first second third fourth =>
    show skipFrom stack (.hex isKey 4) (_ :: _ :: _ :: _ :: rest) = _
    rw [step first, if_neg (by decide), step second, if_neg (by decide), step third, if_neg (by decide), step fourth,
      if_pos (by decide)]

/-- Behind a backslash stands an escape. -/
theorem skipFrom_slash (isKey : Bool) (rest : List Char) :
    skipFrom stack (.string isKey) ('\\' :: rest) = skipFrom stack (.escape isKey) rest := by
  apply skipFrom_go
  · exact fun _ => Spot.noConfusion
  · simp [advance]

/-- **The inside of a string is passed**, up to its quote. -/
theorem skipFrom_body {body : List Char} (h : IsBody body) (isKey : Bool) (rest : List Char) :
    skipFrom stack (.string isKey) (body ++ '"' :: rest) = skipFrom stack (behindString isKey) rest := by
  induction h with
  | nil =>
    apply skipFrom_go
    · exact fun _ => Spot.noConfusion
    · simp [advance]
  | @plain c body hquote hslash hcontrol _ ih =>
    have hshown : isControl c = false := by simpa [isControl] using hcontrol
    have hpass : advance stack (.string isKey) c = .go stack (.string isKey) := by
      simp [advance, hquote, hslash, hshown]
    rw [List.cons_append, skipFrom_go (fun _ => Spot.noConfusion) hpass, ih]
  | @short e c body hescape _ ih =>
    obtain ⟨hshort, hunit⟩ := shortEscape?_of_mem hescape
    have hpass : advance stack (.escape isKey) e = .go stack (.string isKey) := by
      simp [advance, hshort, hunit]
    rw [List.cons_append, List.cons_append, skipFrom_slash, skipFrom_go (fun _ => Spot.noConfusion) hpass, ih]
  | @unit digits body n hdigits _ ih =>
    have hpass : advance stack (.escape isKey) 'u' = .go stack (.hex isKey 4) := by
      simp [advance]
    rw [List.cons_append, List.cons_append, skipFrom_slash, skipFrom_go (fun _ => Spot.noConfusion) hpass,
      List.append_assoc, skipFrom_hex4 hdigits, ih]

/-! ## Numbers -/

/-- The spots at which a number may be complete. -/
def Completes : Spot → Prop
  | .leadingZero | .digits | .decimals | .exponentDigits => True
  | _ => False

/-- A complete number ends in front of what does not continue it. -/
theorem skipFrom_complete (hcomplete : Completes spot) (hrest : Closed rest) :
    skipFrom stack spot rest = skipFrom stack .done rest := by
  have hopen : stack = [] → spot ≠ .done := by
    rintro - rfl
    exact hcomplete
  cases rest with
  | nil =>
    cases stack with
    | nil =>
      cases spot with
      | leadingZero => rfl
      | digits => rfl
      | decimals => rfl
      | exponentDigits => rfl
      | _ => exact absurd hcomplete id
    | cons top below =>
      cases spot with
      | leadingZero => rfl
      | digits => rfl
      | decimals => rfl
      | exponentDigits => rfl
      | _ => exact absurd hcomplete id
  | cons c rest =>
    obtain ⟨hdigit, hpoint, hsmall, hcapital⟩ := hrest c rfl
    have hsame : advance stack spot c = advanceDone stack c := by
      cases spot with
      | leadingZero => simp [advance, advanceWhole, hdigit, hpoint, hsmall, hcapital]
      | digits => simp [advance, advanceWhole, hdigit, hpoint, hsmall, hcapital]
      | decimals => simp [advance, hdigit, hsmall, hcapital]
      | exponentDigits => simp [advance, hdigit]
      | _ => exact absurd hcomplete id
    rw [skipFrom]
    · cases stack with
      | nil =>
        rw [hsame, skipFrom_done]
        rfl
      | cons top below =>
        rw [hsame, skipFrom]
        · rfl
        · rintro ⟨⟩
    · exact hopen

/-- Digits behind a digit. -/
theorem skipFrom_digits {digits : List Char} (hdigits : ∀ c ∈ digits, c.isDigit = true)
    (hspot : spot = .digits ∨ spot = .decimals ∨ spot = .exponentDigits) (rest : List Char) :
    skipFrom stack spot (digits ++ rest) = skipFrom stack spot rest := by
  apply skipFrom_run
  · rintro - rfl
    simp at hspot
  · intro c hc
    rcases hspot with rfl | rfl | rfl
    · simp [advance, hdigits c hc]
    · simp [advance, hdigits c hc]
    · simp [advance, hdigits c hc]

/-- The spots at which a first digit may stand, with those behind it. -/
inductive Starts : Spot → Spot → Prop where
  /-- Behind a point. -/
  | decimals : Starts .firstDecimal .decimals
  /-- Behind the sign of an exponent. -/
  | signed : Starts .firstExponentDigit .exponentDigits
  /-- Behind the letter of an exponent. -/
  | unsigned : Starts .exponentSign .exponentDigits

/-- Digits of which there must be one. -/
theorem skipFrom_isDigits {digits : List Char} (hspot : Starts spot spot') (hdigits : IsDigits digits)
    (rest : List Char) : skipFrom stack spot (digits ++ rest) = skipFrom stack spot' rest := by
  obtain ⟨first, more, rfl⟩ := List.exists_cons_of_ne_nil hdigits.some
  obtain ⟨hfirst, hmore⟩ := List.forall_mem_cons.mp hdigits.all
  have hnosign : ¬ (first = '+' ∨ first = '-') := by
    rintro (rfl | rfl)
    · cases hfirst
    · cases hfirst
  have hpass : advance stack spot first = .go stack spot' := by
    cases hspot with
    | decimals => simp [advance, hfirst]
    | signed => simp [advance, hfirst]
    | unsigned => simp [advance, hfirst, hnosign]
  have hbehind : spot' = .digits ∨ spot' = .decimals ∨ spot' = .exponentDigits := by
    cases hspot with
    | decimals => exact Or.inr (Or.inl rfl)
    | signed => exact Or.inr (Or.inr rfl)
    | unsigned => exact Or.inr (Or.inr rfl)
  rw [List.cons_append, skipFrom_go _ hpass, skipFrom_digits hmore hbehind]
  rintro - rfl
  cases hspot

/-- An exponent is passed. -/
theorem skipFrom_exponent {exponent : List Char} (hexponent : IsExponent exponent)
    (hspot : spot = .leadingZero ∨ spot = .digits ∨ spot = .decimals) (hrest : Closed rest) :
    skipFrom stack spot (exponent ++ rest) = skipFrom stack .done rest := by
  have hcomplete : Completes spot := by
    rcases hspot with rfl | rfl | rfl
    · trivial
    · trivial
    · trivial
  cases hexponent with
  | none => exact skipFrom_complete hcomplete hrest
  | @some letter sign digits hletter hsign hdigits =>
    have hnodigit : letter.isDigit = false ∧ letter ≠ '.' := by
      rcases hletter with rfl | rfl
      · decide
      · decide
    have hpass : advance stack spot letter = .go stack .exponentSign := by
      rcases hspot with rfl | rfl | rfl
      · simp [advance, advanceWhole, hnodigit, hletter]
      · simp [advance, advanceWhole, hnodigit, hletter]
      · simp [advance, hnodigit, hletter]
    have hdone : skipFrom stack .exponentDigits rest = skipFrom stack .done rest :=
      skipFrom_complete trivial hrest
    have hopen : stack = [] → spot ≠ .done := by
      rintro - rfl
      exact hcomplete
    rw [List.cons_append, skipFrom_go hopen hpass, List.append_assoc]
    rcases hsign with rfl | rfl | rfl
    · rw [List.nil_append, skipFrom_isDigits .unsigned hdigits, hdone]
    · have hplus : advance stack .exponentSign '+' = .go stack .firstExponentDigit := by simp [advance]
      rw [List.singleton_append, skipFrom_go (fun _ => Spot.noConfusion) hplus, skipFrom_isDigits .signed hdigits, hdone]
    · have hminus : advance stack .exponentSign '-' = .go stack .firstExponentDigit := by simp [advance]
      rw [List.singleton_append, skipFrom_go (fun _ => Spot.noConfusion) hminus, skipFrom_isDigits .signed hdigits, hdone]

/-- A fraction is passed, and the exponent behind it. -/
theorem skipFrom_fraction {fraction exponent : List Char} (hfraction : IsFraction fraction)
    (hexponent : IsExponent exponent) (hspot : spot = .leadingZero ∨ spot = .digits) (hrest : Closed rest) :
    skipFrom stack spot (fraction ++ (exponent ++ rest)) = skipFrom stack .done rest := by
  cases hfraction with
  | none => exact skipFrom_exponent hexponent (hspot.elim Or.inl fun h => Or.inr (Or.inl h)) hrest
  | @some digits hdigits =>
    have hpass : advance stack spot '.' = .go stack .firstDecimal := by
      rcases hspot with rfl | rfl
      · simp [advance, advanceWhole]
      · simp [advance, advanceWhole]
    have hopen : stack = [] → spot ≠ .done := by
      rintro - rfl
      simp at hspot
    rw [List.cons_append, skipFrom_go hopen hpass, skipFrom_isDigits .decimals hdigits,
      skipFrom_exponent hexponent (Or.inr (Or.inr rfl)) hrest]

/-- The digits in front of a point are passed, and what belongs to the number behind them. -/
theorem skipFrom_whole {whole fraction exponent : List Char} (hwhole : IsWhole whole) (hfraction : IsFraction fraction)
    (hexponent : IsExponent exponent) (hspot : spot = .value ∨ spot = .firstDigit) (hrest : Closed rest) :
    skipFrom stack spot (whole ++ (fraction ++ (exponent ++ rest))) = skipFrom stack .done rest := by
  have hopen : stack = [] → spot ≠ .done := by
    rintro - rfl
    simp at hspot
  cases hwhole with
  | zero =>
    have hpass : advance stack spot '0' = .go stack .leadingZero := by
      rcases hspot with rfl | rfl
      · rfl
      · rfl
    rw [List.singleton_append, skipFrom_go hopen hpass, skipFrom_fraction hfraction hexponent (by simp) hrest]
  | @digits first more hfirst hzero hmore =>
    have hpass : advance stack spot first = .go stack .digits := by
      rcases hspot with rfl | rfl
      · have hnone : isBlank first = false ∧ first ≠ 'n' ∧ first ≠ 't' ∧ first ≠ 'f' ∧ first ≠ '-' := by
          refine ⟨?_, ?_, ?_, ?_, ?_⟩
          · simp only [isBlank, Bool.or_eq_false_iff, decide_eq_false_iff_not]
            refine ⟨⟨⟨?_, ?_⟩, ?_⟩, ?_⟩ <;> (rintro rfl; cases hfirst)
          all_goals (rintro rfl; cases hfirst)
        simp [advance, advanceValue, hnone, hzero, hfirst]
      · simp [advance, hzero, hfirst]
    rw [List.cons_append, skipFrom_go hopen hpass, skipFrom_digits hmore (by simp),
      skipFrom_fraction hfraction hexponent (by simp) hrest]

/-- **A number is passed.** -/
theorem skipFrom_number {text : List Char} (htext : IsNumber text) (hrest : Closed rest) :
    skipFrom stack .value (text ++ rest) = skipFrom stack .done rest := by
  cases htext with
  | parts hsign hwhole hfraction hexponent =>
    simp only [List.append_assoc]
    rcases hsign with rfl | rfl
    · exact skipFrom_whole hwhole hfraction hexponent (by simp) hrest
    · have hpass : advance stack .value '-' = .go stack .firstDigit := rfl
      rw [List.singleton_append, skipFrom_go (fun _ => Spot.noConfusion) hpass,
        skipFrom_whole hwhole hfraction hexponent (by simp) hrest]

/-! ## Brackets -/

/-- **A value is passed over**, whatever is open and whatever stands behind it. -/
def Skips (value : List Char) : Prop :=
  ∀ stack rest, Closed rest → skipFrom stack .value (value ++ rest) = skipFrom stack .done rest

/-- A value begins with neither a blank nor a closing bracket. -/
theorem begins_isJson {value : List Char} (h : IsJson value) :
    ∃ c more, value = c :: more ∧ isBlank c = false ∧ c ≠ ']' := by
  cases h with
  | null => exact ⟨_, _, rfl, by decide, by decide⟩
  | true => exact ⟨_, _, rfl, by decide, by decide⟩
  | false => exact ⟨_, _, rfl, by decide, by decide⟩
  | string _ => exact ⟨_, _, rfl, by decide, by decide⟩
  | list _ _ _ => exact ⟨_, _, rfl, by decide, by decide⟩
  | object _ _ _ _ => exact ⟨_, _, rfl, by decide, by decide⟩
  | number htext =>
    obtain ⟨c, more, rfl, hhead⟩ := htext.head
    have hne {d : Char} (hd : ¬ (d = '-' ∨ d.isDigit = true)) : c ≠ d := by
      rintro rfl
      exact hd hhead
    refine ⟨c, more, rfl, ?_, hne (by decide)⟩
    simp only [isBlank, Bool.or_eq_false_iff, decide_eq_false_iff_not]
    exact ⟨⟨⟨hne (by decide), hne (by decide)⟩, hne (by decide)⟩, hne (by decide)⟩

/-- Where the first element of a list may stand, a value is read as elsewhere. -/
theorem skipFrom_firstElement {value : List Char} (h : IsJson value) (rest : List Char) :
    skipFrom stack .firstElement (value ++ rest) = skipFrom stack .value (value ++ rest) := by
  obtain ⟨c, more, rfl, hblank, hbracket⟩ := begins_isJson h
  have hsame : advance stack .firstElement c = advance stack .value c := by
    simp [advance, hblank, hbracket]
  rw [List.cons_append, skipFrom, skipFrom, hsame]
  · exact fun _ => Spot.noConfusion
  · exact fun _ => Spot.noConfusion

/-- What stands behind a part is closed: a comma or the closing bracket. -/
theorem closed_inside {close : Char} (hclose : close = ']' ∨ close = '\x7d') (parts : List (List Char))
    (rest : List Char) : Closed (parts.flatMap (',' :: ·) ++ close :: rest) := by
  cases parts with
  | nil =>
    apply closed_cons
    rcases hclose with rfl | rfl
    · decide
    · decide
  | cons part parts =>
    apply closed_cons
    decide

/-- An element is passed, with the white space around it. -/
theorem skipFrom_slot {slot : Slot} (hspaced : slot.IsSpaced) (hjson : IsJson slot.value) (hskips : Skips slot.value)
    (hspot : spot = .value ∨ spot = .firstElement) (hrest : Closed rest) :
    skipFrom (.list :: stack) spot (slot.text ++ rest) = skipFrom (.list :: stack) .done rest := by
  have hvalue : skipFrom (.list :: stack) spot (slot.value ++ (slot.back ++ rest))
      = skipFrom (.list :: stack) .done (slot.back ++ rest) := by
    rcases hspot with rfl | rfl
    · exact hskips _ _ (closed_gap hspaced.back hrest)
    · rw [skipFrom_firstElement hjson]
      exact hskips _ _ (closed_gap hspaced.back hrest)
  have hwaits : Waits (.list :: stack) spot := by
    rcases hspot with rfl | rfl
    · trivial
    · trivial
  have hdone : Waits (.list :: stack) .done := List.cons_ne_nil _ _
  rw [Slot.text, List.append_assoc, List.append_assoc, skipFrom_gap hwaits hspaced.front, hvalue,
    skipFrom_gap hdone hspaced.back]

/-- The closing bracket of a list. -/
theorem skipFrom_closeList (rest : List Char) :
    skipFrom (.list :: stack) .done (']' :: rest) = skipFrom stack .done rest := by
  apply skipFrom_go
  · exact fun h => absurd h (List.cons_ne_nil _ _)
  · rfl

/-- The elements behind the first one, and the closing bracket. -/
theorem skipFrom_slots {slots : List Slot} (hspaced : ∀ slot ∈ slots, slot.IsSpaced)
    (hjson : ∀ slot ∈ slots, IsJson slot.value) (hskips : ∀ slot ∈ slots, Skips slot.value) (rest : List Char) :
    skipFrom (.list :: stack) .done ((slots.map Slot.text).flatMap (',' :: ·) ++ ']' :: rest)
      = skipFrom stack .done rest := by
  induction slots with
  | nil => exact skipFrom_closeList rest
  | cons slot slots ih =>
    obtain ⟨hspaced, hspaceds⟩ := List.forall_mem_cons.mp hspaced
    obtain ⟨hjson, hjsons⟩ := List.forall_mem_cons.mp hjson
    obtain ⟨hskips, hskipss⟩ := List.forall_mem_cons.mp hskips
    have hcomma : advance (.list :: stack) .done ',' = .go (.list :: stack) .value := rfl
    rw [List.map_cons, List.flatMap_cons, List.cons_append, List.cons_append, List.append_assoc,
      skipFrom_go (fun h => absurd h (List.cons_ne_nil _ _)) hcomma,
      skipFrom_slot hspaced hjson hskips (Or.inl rfl) (closed_inside (Or.inl rfl) _ _)]
    exact ih hspaceds hjsons hskipss

/-- **A list is passed if its elements are.** -/
theorem skips_list {gap : List Char} {slots : List Slot} (hgap : IsGap gap) (hspaced : ∀ slot ∈ slots, slot.IsSpaced)
    (hjson : ∀ slot ∈ slots, IsJson slot.value) (hskips : ∀ slot ∈ slots, Skips slot.value) :
    Skips (listText gap slots) := by
  intro stack rest _
  have hopen : advance stack .value '[' = .go (.list :: stack) .firstElement := rfl
  rw [listText, List.cons_append, List.append_assoc, List.singleton_append,
    skipFrom_go (fun _ => Spot.noConfusion) hopen]
  cases slots with
  | nil =>
    have hwaits : Waits (.list :: stack) .firstElement := trivial
    have hclose : advance (.list :: stack) .firstElement ']' = .go stack .done := rfl
    rw [List.map_nil, inside, skipFrom_gap hwaits hgap, skipFrom_go (fun _ => Spot.noConfusion) hclose]
  | cons slot slots =>
    obtain ⟨hspaced, hspaceds⟩ := List.forall_mem_cons.mp hspaced
    obtain ⟨hjson, hjsons⟩ := List.forall_mem_cons.mp hjson
    obtain ⟨hskips, hskipss⟩ := List.forall_mem_cons.mp hskips
    rw [List.map_cons, inside, List.append_assoc,
      skipFrom_slot hspaced hjson hskips (Or.inr rfl) (closed_inside (Or.inl rfl) _ _)]
    exact skipFrom_slots hspaceds hjsons hskipss rest

/-- A member is passed, with the white space around its parts. -/
theorem skipFrom_entry {entry : Entry} (hspaced : entry.IsSpaced) (hkey : IsBody entry.key) (hskips : Skips entry.value)
    (hspot : spot = .key ∨ spot = .firstKey) (hrest : Closed rest) :
    skipFrom (.object :: stack) spot (entry.text ++ rest) = skipFrom (.object :: stack) .done rest := by
  have hwaits : Waits (.object :: stack) spot := by
    rcases hspot with rfl | rfl
    · trivial
    · trivial
  have hcolon : Waits (.object :: stack) .colon := trivial
  have hvalue : Waits (.object :: stack) .value := trivial
  have hdone : Waits (.object :: stack) .done := List.cons_ne_nil _ _
  have hquote : advance (.object :: stack) spot '"' = .go (.object :: stack) (.string true) := by
    rcases hspot with rfl | rfl
    · rfl
    · rfl
  have hopen : (Opened.object :: stack) = [] → spot ≠ .done := fun h => absurd h (List.cons_ne_nil _ _)
  have hsign : advance (.object :: stack) .colon ':' = .go (.object :: stack) .value := rfl
  simp only [Entry.text, Entry.tail, List.append_assoc, List.cons_append]
  rw [skipFrom_gap hwaits hspaced.front, skipFrom_go hopen hquote, skipFrom_body hkey]
  show skipFrom (.object :: stack) .colon _ = _
  rw [skipFrom_gap hcolon hspaced.behind, skipFrom_go (fun _ => Spot.noConfusion) hsign,
    skipFrom_gap hvalue hspaced.ahead, hskips _ _ (closed_gap hspaced.back hrest), skipFrom_gap hdone hspaced.back]

/-- The members behind the first one, and the closing brace. -/
theorem skipFrom_entries {entries : List Entry} (hspaced : ∀ entry ∈ entries, entry.IsSpaced)
    (hkeys : ∀ entry ∈ entries, IsBody entry.key) (hskips : ∀ entry ∈ entries, Skips entry.value) (rest : List Char) :
    skipFrom (.object :: stack) .done ((entries.map Entry.text).flatMap (',' :: ·) ++ '\x7d' :: rest)
      = skipFrom stack .done rest := by
  induction entries with
  | nil =>
    apply skipFrom_go
    · exact fun h => absurd h (List.cons_ne_nil _ _)
    · rfl
  | cons entry entries ih =>
    obtain ⟨hspaced, hspaceds⟩ := List.forall_mem_cons.mp hspaced
    obtain ⟨hkey, hkeys⟩ := List.forall_mem_cons.mp hkeys
    obtain ⟨hskips, hskipss⟩ := List.forall_mem_cons.mp hskips
    have hcomma : advance (.object :: stack) .done ',' = .go (.object :: stack) .key := rfl
    rw [List.map_cons, List.flatMap_cons, List.cons_append, List.cons_append, List.append_assoc,
      skipFrom_go (fun h => absurd h (List.cons_ne_nil _ _)) hcomma,
      skipFrom_entry hspaced hkey hskips (Or.inl rfl) (closed_inside (Or.inr rfl) _ _)]
    exact ih hspaceds hkeys hskipss

/-- **An object is passed if the values of its members are.** -/
theorem skips_object {gap : List Char} {entries : List Entry} (hgap : IsGap gap)
    (hspaced : ∀ entry ∈ entries, entry.IsSpaced) (hkeys : ∀ entry ∈ entries, IsBody entry.key)
    (hskips : ∀ entry ∈ entries, Skips entry.value) : Skips (objectText gap entries) := by
  intro stack rest _
  have hopen : advance stack .value '\x7b' = .go (.object :: stack) .firstKey := rfl
  rw [objectText, List.cons_append, List.append_assoc, List.singleton_append,
    skipFrom_go (fun _ => Spot.noConfusion) hopen]
  cases entries with
  | nil =>
    have hwaits : Waits (.object :: stack) .firstKey := trivial
    have hclose : advance (.object :: stack) .firstKey '\x7d' = .go stack .done := rfl
    rw [List.map_nil, inside, skipFrom_gap hwaits hgap, skipFrom_go (fun _ => Spot.noConfusion) hclose]
  | cons entry entries =>
    obtain ⟨hspaced, hspaceds⟩ := List.forall_mem_cons.mp hspaced
    obtain ⟨hkey, hkeys⟩ := List.forall_mem_cons.mp hkeys
    obtain ⟨hskips, hskipss⟩ := List.forall_mem_cons.mp hskips
    rw [List.map_cons, inside, List.append_assoc,
      skipFrom_entry hspaced hkey hskips (Or.inr rfl) (closed_inside (Or.inr rfl) _ _)]
    exact skipFrom_entries hspaceds hkeys hskipss rest

/-! ## Every value -/

/-- The letters of a literal are passed. -/
theorem skipFrom_letters {letters : List Char} (hsome : letters ≠ []) (rest : List Char) :
    skipFrom stack (.letters letters) (letters ++ rest) = skipFrom stack .done rest := by
  induction letters with
  | nil => exact absurd rfl hsome
  | cons c letters ih =>
    cases letters with
    | nil =>
      have hpass : advance stack (.letters [c]) c = .go stack .done := by simp [advance]
      exact skipFrom_go (fun _ => Spot.noConfusion) hpass rest
    | cons d letters =>
      have hpass : advance stack (.letters (c :: d :: letters)) c = .go stack (.letters (d :: letters)) := by
        simp [advance]
      rw [List.cons_append, skipFrom_go (fun _ => Spot.noConfusion) hpass, ih (List.cons_ne_nil _ _)]

/-- A literal is passed from its first letter on. -/
theorem skips_literal {first : Char} {letters : List Char} (hsome : letters ≠ [])
    (hfirst : ∀ stack, advance stack .value first = .go stack (.letters letters)) : Skips (first :: letters) := by
  intro stack rest _
  rw [List.cons_append, skipFrom_go (fun _ => Spot.noConfusion) (hfirst stack), skipFrom_letters hsome]

/-- **Every value is passed over.** -/
theorem skips_of_isJson {value : List Char} (h : IsJson value) : Skips value := by
  induction h with
  | null => exact skips_literal (by decide) fun _ => rfl
  | true => exact skips_literal (by decide) fun _ => rfl
  | false => exact skips_literal (by decide) fun _ => rfl
  | number htext => exact fun stack rest hrest => skipFrom_number htext hrest
  | @string body hbody =>
    intro stack rest _
    have hquote : advance stack .value '"' = .go stack (.string false) := rfl
    rw [List.cons_append, List.append_assoc, List.singleton_append, skipFrom_go (fun _ => Spot.noConfusion) hquote,
      skipFrom_body hbody]
    rfl
  | list hgap hspaced hvalues ih => exact skips_list hgap hspaced hvalues ih
  | object hgap hspaced hkeys _ ih => exact skips_object hgap hspaced hkeys ih

/-- **What is left behind a value is what stands behind it.** -/
theorem skipValue_append {gap value : List Char} (hgap : IsGap gap) (h : IsJson value) (hrest : Closed rest) :
    skipValue (gap ++ (value ++ rest)) = .ok rest := by
  have hwaits : Waits [] .value := trivial
  rw [skipValue, skipFrom_gap hwaits hgap, skips_of_isJson h [] rest hrest, skipFrom_done]

end TextSocket.Json
