import TextSocket.Http.Head
import TextSocket.Proofs.Text.Ascii

/-!
# `Proofs.Http.Head` — a written head is read back

Each part of a head is read up to the byte that ends it, so what follows is left as it is. **The header lines that are
written are the ones that are read** (`readFields_writeFields`), up to the blanks around a value, and **a written head
ends with its first blank line** (`endsAtBlankLine_write`): no line of it is blank, since none of its parts contains
the end of a line.

## Contents

* `takeWhile_stop`, `dropWhile_stop` — up to the byte that ends a part;
* `Begins`, `skipBlankLines_begins`, `readToken_append`, `readTarget_append`, … — the parts of a start line;
* `IsLine`, `readField_writeField`, `readFields_begins`, `readFields_writeFields` — header lines;
* `blankLine`, `EndsAtBlankLine`, `endsAtBlankLine_write` — where a head ends.
-/

namespace TextSocket.Http.Head

open Ascii (IsVisible)

/-! ## Up to the byte that ends a part -/

section Stop

variable {α : Type} {p : α → Bool} {part : List α} {stop : α} {rest : List α}

theorem takeWhile_stop (hpart : ∀ b ∈ part, p b = true) (hstop : p stop = false) :
    (part ++ stop :: rest).takeWhile p = part := by
  rw [List.takeWhile_append_of_pos hpart, List.takeWhile_cons, hstop]
  exact List.append_nil part

theorem dropWhile_stop (hstop : p stop = false) :
    (part ++ stop :: rest).dropWhile p = part.dropWhile p ++ stop :: rest := by
  induction part with
  | nil => simp [hstop]
  | cons b part ih =>
    rw [List.cons_append, List.dropWhile_cons, List.dropWhile_cons]
    split
    · exact ih
    · rfl

/-- The first element that ends a part. -/
theorem exists_stop {a : α} (ha : a ∈ part) (hp : p a = false) :
    ∃ front stop back, part = front ++ stop :: back ∧ (∀ b ∈ front, p b = true) ∧ p stop = false := by
  induction part with
  | nil => cases ha
  | cons b part ih =>
    by_cases hb : p b = true
    case neg => exact ⟨[], b, part, rfl, nofun, Bool.eq_false_iff.mpr hb⟩
    have hne : a ≠ b := by
      rintro rfl
      exact absurd hb (Bool.eq_false_iff.mp hp)
    obtain ⟨front, stop, back, rfl, hfront, hstop⟩ := ih ((List.mem_cons.mp ha).resolve_left hne)
    exact ⟨b :: front, stop, back, rfl, List.forall_mem_cons.mpr ⟨hb, hfront⟩, hstop⟩

end Stop

/-! ## Start lines -/

/-- Bytes that begin with neither a blank line nor a part of one. -/
def Begins (bytes : Bytes) : Prop := ∃ b more, bytes = b :: more ∧ b ≠ 10 ∧ b ≠ 13

theorem Begins.append {bytes : Bytes} (h : Begins bytes) (more : Bytes) : Begins (bytes ++ more) := by
  obtain ⟨b, back, rfl, hb⟩ := h
  exact ⟨b, back ++ more, rfl, hb⟩

/-- No byte of a token belongs to the end of a line. -/
theorem begins_of_isToken {token : Bytes} (hne : token ≠ []) (htoken : ∀ b ∈ token, Ascii.isToken b = true) :
    Begins token := by
  obtain ⟨b, more, rfl⟩ := List.exists_cons_of_ne_nil hne
  have hb := htoken b List.mem_cons_self
  refine ⟨b, more, rfl, ?_, ?_⟩ <;> rintro rfl <;> revert hb <;> decide

theorem skipBlankLines_begins {bytes : Bytes} (h : Begins bytes) : skipBlankLines bytes = .found () bytes := by
  obtain ⟨b, more, rfl, hlf, hcr⟩ := h
  unfold skipBlankLines
  split <;> simp_all

theorem readToken_append {token : Bytes} (hne : token ≠ []) (htoken : ∀ b ∈ token, Ascii.isToken b = true)
    (rest : Bytes) : readToken (token ++ 32 :: rest) = .found token rest := by
  have taken : (token ++ 32 :: rest).takeWhile Ascii.isToken = token := takeWhile_stop htoken (by decide)
  simp only [readToken, taken, List.drop_left]
  simp [hne]

theorem readTarget_append {target : Bytes} (hne : target ≠ []) (htarget : ∀ b ∈ target, isTargetByte b = true)
    (htext : (Bytes.text? target).isSome = true) (rest : Bytes) :
    readTarget (target ++ 32 :: rest) = .found target rest := by
  have taken : (target ++ 32 :: rest).takeWhile isTargetByte = target := takeWhile_stop htarget (by decide)
  simp only [readTarget, taken, List.drop_left]
  rw [Option.isSome_iff_ne_none] at htext
  simp [hne, htext]

/-- A target that holds a control is not read, whatever stands behind it. -/
theorem readTarget_fault {target : Bytes} (hspace : 32 ∉ target) {control : UInt8} (hcontrol : control ∈ target)
    (hbyte : isTargetByte control = false) (rest : Bytes) : readTarget (target ++ rest) = .fault .token := by
  -- reading stops at the first byte that does not belong to a target, and that is no space
  obtain ⟨front, stop, back, rfl, hfront, hstop⟩ := exists_stop hcontrol hbyte
  have hne : stop ≠ 32 := by
    rintro rfl
    exact hspace (List.mem_append_right _ List.mem_cons_self)
  have taken : (front ++ stop :: (back ++ rest)).takeWhile isTargetByte = front := takeWhile_stop hfront hstop
  rw [List.append_assoc, List.cons_append]
  simp only [readTarget, taken, List.drop_left]
  split
  · next hnil => cases hnil
  · next heq => exact absurd (List.cons.inj heq).1 hne
  · rfl

theorem readVersion_one (rest : Bytes) : readVersion (protocolName ++ 49 :: rest) = .found 1 rest := by
  have eight : (protocolName ++ [49]).length = 8 := by decide
  have split : protocolName ++ 49 :: rest = protocolName ++ [49] ++ rest := by simp
  have enough : 8 ≤ (protocolName ++ [49] ++ rest).length := by
    rw [List.length_append, eight]
    omega
  have other : protocolName ++ [49] ≠ protocolName ++ [48] := by decide
  rw [split, readVersion, if_pos enough, List.take_left' eight, List.drop_left' eight, if_neg other, if_pos rfl]

theorem readLineEnd_append (cause : HeadFault) (rest : Bytes) :
    readLineEnd cause (lineEnd ++ rest) = .found () rest := rfl

theorem readSpace_cons (cause : HeadFault) (rest : Bytes) : readSpace cause (32 :: rest) = .found () rest := rfl

theorem readReason_append {phrase : Bytes} (hphrase : ∀ b ∈ phrase, isReasonByte b = true) (rest : Bytes) :
    readReason (32 :: phrase ++ lineEnd ++ rest) = .found () rest := by
  have shape : 32 :: phrase ++ lineEnd ++ rest = 32 :: (phrase ++ 13 :: 10 :: rest) := by simp [lineEnd]
  have left : (phrase ++ 13 :: 10 :: rest).dropWhile isReasonByte = 13 :: 10 :: rest := by
    rw [List.dropWhile_append_of_pos hphrase]
    rfl
  rw [shape]
  simp only [readReason, left]
  rfl

/-! ## Header lines -/

/-- A header line that can be written: a token, and a value within a line. -/
structure IsLine (line : Bytes × Bytes) : Prop where
  /-- The name is not empty. -/
  named : line.1 ≠ []
  /-- The name is a token. -/
  token : ∀ b ∈ line.1, Ascii.isToken b = true
  /-- The value may stand in a line. -/
  value : ∀ b ∈ line.2, isFieldByte b = true

instance (line : Bytes × Bytes) : Decidable (IsLine line) :=
  decidable_of_iff (line.1 ≠ [] ∧ line.1.all Ascii.isToken = true ∧ line.2.all isFieldByte = true)
    ⟨fun h => ⟨h.1, List.all_eq_true.1 h.2.1, List.all_eq_true.1 h.2.2⟩,
      fun h => ⟨h.named, List.all_eq_true.2 h.token, List.all_eq_true.2 h.value⟩⟩

/-- A header line as it is read: without blanks around the value. -/
def trimmed (line : Bytes × Bytes) : Bytes × Bytes := (line.1, Ascii.trimBlanks line.2)

theorem trimBlanks_dropWhile (value : Bytes) :
    Ascii.trimBlanks (value.dropWhile Ascii.isBlank) = Ascii.trimBlanks value := by
  have again : (value.dropWhile Ascii.isBlank).dropWhile Ascii.isBlank = value.dropWhile Ascii.isBlank := by
    induction value with
    | nil => rfl
    | cons b value ih =>
      by_cases h : Ascii.isBlank b = true
      · rw [List.dropWhile_cons_of_pos h, ih]
      · rw [List.dropWhile_cons_of_neg h, List.dropWhile_cons_of_neg h]
  rw [Ascii.trimBlanks, again]
  rfl

theorem dropWhile_eq_self {α : Type} {p : α → Bool} {l : List α} (h : ∀ a ∈ l.head?, p a = false) :
    l.dropWhile p = l := by
  cases l with
  | nil => rfl
  | cons a l => rw [List.dropWhile_cons_of_neg (by simp [h a rfl])]

/-- A value that no blank begins or ends. -/
structure IsBare (value : Bytes) : Prop where
  /-- It does not begin with a blank. -/
  first : ∀ b ∈ value.head?, Ascii.isBlank b = false
  /-- It does not end with one. -/
  last : ∀ b ∈ value.getLast?, Ascii.isBlank b = false

instance (value : Bytes) : Decidable (IsBare value) :=
  decidable_of_iff (value.head?.any Ascii.isBlank = false ∧ value.getLast?.any Ascii.isBlank = false)
    ⟨fun h => ⟨(Option.any_eq_false _ _).mp h.1, (Option.any_eq_false _ _).mp h.2⟩,
      fun h => ⟨(Option.any_eq_false _ _).mpr h.first, (Option.any_eq_false _ _).mpr h.last⟩⟩

/-- Only the ends of a value are trimmed. -/
theorem trimBlanks_of_isBare {value : Bytes} (h : IsBare value) : Ascii.trimBlanks value = value := by
  have back : ∀ b ∈ value.reverse.head?, Ascii.isBlank b = false := by
    rw [List.head?_reverse]
    exact h.last
  rw [Ascii.trimBlanks, dropWhile_eq_self h.first, dropWhile_eq_self back, List.reverse_reverse]

/-- A value without blanks is not trimmed. -/
theorem trimBlanks_eq_self {value : Bytes} (h : ∀ b ∈ value, Ascii.isBlank b = false) :
    Ascii.trimBlanks value = value :=
  trimBlanks_of_isBare ⟨fun b hb => h b (List.mem_of_mem_head? hb), fun b hb => h b (List.mem_of_mem_getLast? hb)⟩

theorem isFieldByte_of_visible {b : UInt8} (h : IsVisible b) : isFieldByte b = true := by
  have hne : b ≠ 127 := fun e => by rw [e] at h; revert h; decide
  have hle : 32 ≤ b := UInt8.le_iff_toNat_le.2 (Nat.le_trans (by decide) h.1)
  simp [isFieldByte, hne, hle]

theorem isBlank_of_visible {b : UInt8} (h : IsVisible b) : Ascii.isBlank b = false := by
  have hspace : b ≠ 32 := fun e => by rw [e] at h; revert h; decide
  have htab : b ≠ 9 := fun e => by rw [e] at h; revert h; decide
  simp [Ascii.isBlank, hspace, htab]

/-- A visible value is read as it was written. -/
theorem trimmed_of_visible {name value : Bytes} (h : ∀ b ∈ value, IsVisible b) :
    trimmed (name, value) = (name, value) := by
  rw [trimmed, trimBlanks_eq_self fun b hb => isBlank_of_visible (h b hb)]

/-- A value is read back behind the blank that separates it from the colon. -/
theorem readFieldValue_append {value : Bytes} (hvalue : ∀ b ∈ value, isFieldByte b = true) (rest : Bytes) :
    readFieldValue (32 :: (value ++ lineEnd ++ rest)) = .found (Ascii.trimBlanks value) rest := by
  have shape : 32 :: (value ++ lineEnd ++ rest) = 32 :: value ++ 13 :: 10 :: rest := by simp [lineEnd]
  have blank : Ascii.isBlank 32 = true := by decide
  have inner : ∀ b ∈ value.dropWhile Ascii.isBlank, isFieldByte b = true :=
    fun b hb => hvalue b ((List.dropWhile_suffix _).subset hb)
  have taken : (value.dropWhile Ascii.isBlank ++ 13 :: 10 :: rest).takeWhile isFieldByte
      = value.dropWhile Ascii.isBlank := takeWhile_stop inner (by decide)
  rw [shape, readFieldValue, dropWhile_stop (by decide), List.dropWhile_cons_of_pos blank]
  simp only [taken, List.drop_left, trimBlanks_dropWhile]
  rfl

/-- **A header line is read back.** -/
theorem readField_writeField {line : Bytes × Bytes} (h : IsLine line) (rest : Bytes) :
    readField (writeField line ++ rest) = .found (trimmed line) rest := by
  have shape : writeField line ++ rest = line.1 ++ 58 :: 32 :: (line.2 ++ lineEnd ++ rest) := by
    have colon : Bytes.ofText ": " = [58, 32] := by decide
    simp [writeField, colon]
  have taken : (line.1 ++ 58 :: 32 :: (line.2 ++ lineEnd ++ rest)).takeWhile Ascii.isToken = line.1 :=
    takeWhile_stop h.token (by decide)
  rw [shape]
  simp only [readField, taken, List.drop_left, List.isEmpty_iff, if_neg h.named, readFieldValue_append h.value]
  rfl

/-- No header line is taken for the end of a head. One that is too many is not read. -/
theorem readFields_begins {bytes : Bytes} (h : Begins bytes) (left : Nat) :
    readFields left bytes = (readField bytes).andThen fun field rest =>
      match left with
      | 0 => .fault .tooManyHeaders
      | left + 1 => (readFields left rest).map fun fields => field :: fields := by
  obtain ⟨b, more, rfl, hlf, hcr⟩ := h
  rw [readFields.eq_def]
  split
  case h_1 heq => cases heq
  case h_2 heq => exact absurd (List.cons.inj heq).1 hlf
  case h_3 heq => exact absurd (List.cons.inj heq).1 hcr
  case h_4 heq => exact absurd (List.cons.inj heq).1 hcr
  case h_5 heq => exact absurd (List.cons.inj heq).1 hcr
  case h_6 => rfl

theorem readFields_line {line : Bytes × Bytes} (h : IsLine line) (left : Nat) (rest : Bytes) :
    readFields left (writeField line ++ rest) = match left with
      | 0 => .fault .tooManyHeaders
      | left + 1 => (readFields left rest).map fun fields => trimmed line :: fields := by
  have shape : writeField line ++ rest = line.1 ++ (Bytes.ofText ": " ++ line.2 ++ lineEnd ++ rest) := by
    simp [writeField]
  have hbegins : Begins (writeField line ++ rest) := by
    rw [shape]
    exact (begins_of_isToken h.named h.token).append _
  rw [readFields_begins hbegins, readField_writeField h rest]
  rfl

/-- **The header lines that are written are read**, with the blank line behind them. -/
theorem readFields_writeFields {lines : List (Bytes × Bytes)} (hlines : ∀ line ∈ lines, IsLine line) {left : Nat}
    (hleft : lines.length ≤ left) (rest : Bytes) :
    readFields left (lines.flatMap writeField ++ lineEnd ++ rest) = .found (lines.map trimmed) rest := by
  induction lines generalizing left with
  | nil => unfold readFields; rfl
  | cons line lines ih =>
    obtain ⟨left, rfl⟩ : ∃ n, left = n + 1 := ⟨left - 1, by simp at hleft; omega⟩
    rw [List.flatMap_cons, List.append_assoc, List.append_assoc, readFields_line (hlines line List.mem_cons_self),
      ← List.append_assoc]
    dsimp only
    rw [ih (fun l hl => hlines l (List.mem_cons_of_mem _ hl)) (by simpa using hleft)]
    rfl

/-- More header lines than may be read are noticed at the first that is too many. -/
theorem readFields_tooMany {lines : List (Bytes × Bytes)} (hlines : ∀ line ∈ lines, IsLine line) {left : Nat}
    (hleft : left < lines.length) (rest : Bytes) :
    readFields left (lines.flatMap writeField ++ rest) = .fault .tooManyHeaders := by
  induction lines generalizing left with
  | nil => cases hleft
  | cons line lines ih =>
    rw [List.flatMap_cons, List.append_assoc, readFields_line (hlines line List.mem_cons_self)]
    cases left with
    | zero => rfl
    | succ left =>
      dsimp only
      rw [ih (fun l hl => hlines l (List.mem_cons_of_mem _ hl)) (Nat.lt_of_succ_lt_succ hleft)]
      rfl

/-! ## Where a head ends -/

/-- Two ends of a line: what a blank line begins and ends with. -/
def blankLine : Bytes := [13, 10, 13, 10]

/-- Bytes that end with their first blank line. -/
structure EndsAtBlankLine (bytes : Bytes) : Prop where
  /-- They end with one. -/
  ends : blankLine <:+ bytes
  /-- There is none before. -/
  first : ∀ front back : Bytes, bytes = front ++ blankLine ++ back → back = []

/-- A blank line that begins in a text which ends in the end of a line begins with that end. -/
theorem blankLine_cases {text : Bytes} (htext : 13 ∉ text) {more front back : Bytes}
    (h : text ++ lineEnd ++ more = front ++ blankLine ++ back) :
    more = lineEnd ++ back ∨ ∃ front', more = front' ++ blankLine ++ back := by
  induction text generalizing front with
  | nil =>
    match front with
    | [] => exact .inl (by simpa [lineEnd, blankLine] using h)
    | [c] => simp [lineEnd, blankLine] at h
    | c :: d :: front => exact .inr ⟨front, by simp_all [lineEnd, blankLine]⟩
  | cons b text ih =>
    rw [List.mem_cons, not_or] at htext
    match front with
    | [] => simp [blankLine] at h; exact absurd h.1.symm htext.1
    | c :: front => exact ih htext.2 (List.cons.inj (by simpa using h)).2

/-- The text of a header line, without its end. -/
def fieldText (line : Bytes × Bytes) : Bytes := line.1 ++ Bytes.ofText ": " ++ line.2

theorem writeField_eq (line : Bytes × Bytes) : writeField line = fieldText line ++ lineEnd := rfl

theorem IsLine.not_mem_text {line : Bytes × Bytes} (h : IsLine line) : 13 ∉ fieldText line := by
  have token : Ascii.isToken 13 = false := by decide
  have field : isFieldByte 13 = false := by decide
  have colon : (13 : UInt8) ∉ Bytes.ofText ": " := by decide
  intro hmem
  rcases List.mem_append.1 hmem with hmem | hmem
  · rcases List.mem_append.1 hmem with hmem | hmem
    · rw [h.token 13 hmem] at token
      cases token
    · exact colon hmem
  · rw [h.value 13 hmem] at field
    cases field

theorem IsLine.text_ne {line : Bytes × Bytes} (h : IsLine line) (more back : Bytes) :
    fieldText line ++ lineEnd ++ more ≠ lineEnd ++ back := by
  intro heq
  have hmem := h.not_mem_text
  obtain ⟨name, value⟩ := line
  cases name with
  | nil => exact h.named rfl
  | cons b name =>
    obtain rfl : b = 13 := (List.cons.inj heq).1
    exact hmem List.mem_cons_self

/-- The first blank line behind the beginning of a head is its last line. The induction is on the lines: a blank line
    that begins in one of them begins with its end, and the next line is not blank. -/
theorem back_eq_nil {lines : List (Bytes × Bytes)} (hlines : ∀ line ∈ lines, IsLine line) {text front back : Bytes}
    (htext : 13 ∉ text)
    (h : text ++ lineEnd ++ (lines.flatMap writeField ++ lineEnd) = front ++ blankLine ++ back) : back = [] := by
  induction lines generalizing text front with
  | nil =>
    rcases blankLine_cases htext h with hback | ⟨front', hfront⟩
    · exact List.self_eq_append_right.1 hback
    · have := congrArg List.length hfront
      simp [lineEnd, blankLine] at this
      omega
  | cons line lines ih =>
    have hline := hlines line List.mem_cons_self
    have shape : (line :: lines).flatMap writeField ++ lineEnd
        = fieldText line ++ lineEnd ++ (lines.flatMap writeField ++ lineEnd) := by
      rw [List.flatMap_cons, writeField_eq, List.append_assoc]
    rcases blankLine_cases htext h with hback | ⟨front', hfront⟩
    · exact absurd (shape.symm.trans hback) (hline.text_ne _ back)
    · exact ih (fun l hl => hlines l (List.mem_cons_of_mem _ hl)) hline.not_mem_text (shape.symm.trans hfront)

theorem lineEnd_suffix (start : Bytes) (lines : List (Bytes × Bytes)) :
    lineEnd <:+ start ++ lineEnd ++ lines.flatMap writeField := by
  rcases List.eq_nil_or_concat lines with rfl | ⟨front, line, rfl⟩
  · exact ⟨start, by simp⟩
  · exact ⟨start ++ lineEnd ++ front.flatMap writeField ++ fieldText line, by simp [writeField_eq]⟩

/-- **A written head ends with its first blank line.** -/
theorem endsAtBlankLine_write {start : Bytes} (hstart : 13 ∉ start) {lines : List (Bytes × Bytes)}
    (hlines : ∀ line ∈ lines, IsLine line) : EndsAtBlankLine (write start lines) where
  ends := by
    obtain ⟨front, hfront⟩ := lineEnd_suffix start lines
    refine ⟨front, ?_⟩
    rw [write, ← hfront, List.append_assoc]
    rfl
  first := by
    intro front back h
    rw [write, List.append_assoc] at h
    exact back_eq_nil hlines hstart h

end TextSocket.Http.Head
