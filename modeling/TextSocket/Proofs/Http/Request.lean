import Mathlib.Data.List.Forall2
import Mathlib.Tactic.SplitIfs
import TextSocket.Http.Request
import TextSocket.Proofs.Header.Fields
import TextSocket.Proofs.Header.Spelling
import TextSocket.Proofs.Http.Head

/-!
# `Proofs.Http.Request` — the head of a request is taken apart

**A written request is split into what it was written from** (`split_render`), up to the blanks around the values. What
is made of the parts is another matter: the target has to be one, and so have the names and values of the header lines.
**Lines that were written from fields are read as these fields** (`fieldsOfLines_of_writes`).

## Contents

* `Writes`, `isLine_of_writes`, `fieldsOfLines_of_writes` — header lines and the fields they stand for;
* `split_render`, `endsAtBlankLine_render` — the parts of a written request;
* `ofParts_of_writes`, `parse_render` — what is made of them;
* `parse_render_tooMany`, `parse_render_control` — requests that are refused.
-/

namespace TextSocket.Http

open Head (IsLine trimmed)
open Header (Name Value Fields)

/-! ## Header lines and the fields they stand for -/

/-- A header line that writes a field. -/
structure Writes (line : Bytes × Bytes) (field : Name × Value) : Prop where
  /-- The name is read back. -/
  name : Name.ofBytes? line.1 = some field.1
  /-- The value is written as it is. -/
  value : line.2 = field.2.bytes

theorem isLine_of_writes {line : Bytes × Bytes} {field : Name × Value} (h : Writes line field) : IsLine line where
  named := (Name.isName_of_ofBytes? h.name).nonempty
  token := (Name.isName_of_ofBytes? h.name).token
  value := by
    rw [h.value]
    exact List.all_eq_true.1 field.2.valid

/-- Lines that were written from fields can be written in a head. -/
theorem isLine_of_forall {lines : List (Bytes × Bytes)} {fields : List (Name × Value)}
    (h : List.Forall₂ Writes lines fields) : ∀ line ∈ lines, IsLine line := by
  induction h with
  | nil => exact nofun
  | cons hline _ ih => exact List.forall_mem_cons.2 ⟨isLine_of_writes hline, ih⟩

theorem mem_of_mem_trimBlanks {value : Bytes} {b : UInt8} (h : b ∈ Ascii.trimBlanks value) : b ∈ value := by
  have h := (List.dropWhile_suffix _).subset (List.mem_reverse.1 h)
  exact (List.dropWhile_suffix _).subset (List.mem_reverse.1 h)

/-- A value as it is read: without blanks around it. -/
def trimmedValue (value : Value) : Value :=
  ⟨Ascii.trimBlanks value.bytes, List.all_eq_true.2 fun b hb =>
    List.all_eq_true.1 value.valid b (mem_of_mem_trimBlanks hb)⟩

theorem trimmedValue_bytes (value : Value) : (trimmedValue value).bytes = Ascii.trimBlanks value.bytes := rfl

/-- A field as it is read. -/
def trimmedField (field : Name × Value) : Name × Value := (field.1, trimmedValue field.2)

theorem fieldOfLine_of_writes {line : Bytes × Bytes} {field : Name × Value} (h : Writes line field) :
    fieldOfLine (trimmed line) = .ok (trimmedField field) := by
  have value : Value.ofBytes? (Ascii.trimBlanks field.2.bytes) = some (trimmedValue field.2) :=
    dif_pos (trimmedValue field.2).valid
  simp only [fieldOfLine, trimmed, h.name, h.value, value]
  rfl

/-- **Lines that were written from fields are read as these fields.** -/
theorem fieldsOfLines_of_writes {lines : List (Bytes × Bytes)} {fields : List (Name × Value)}
    (h : List.Forall₂ Writes lines fields) :
    fieldsOfLines (lines.map trimmed) = .ok (Fields.ofList (fields.map trimmedField)) := by
  have hlines : (lines.map trimmed).mapM fieldOfLine = .ok (fields.map trimmedField) := by
    induction h with
    | nil => rfl
    | cons hline _ ih =>
      rw [List.map_cons, List.mapM_cons, fieldOfLine_of_writes hline, ih]
      rfl
  rw [fieldsOfLines, hlines]
  rfl

theorem valuesIn_trimmedField (fields : List (Name × Value)) (name : Name) :
    Fields.valuesIn (fields.map trimmedField) name = (Fields.valuesIn fields name).map trimmedValue := by
  induction fields with
  | nil => rfl
  | cons field fields ih =>
    rw [List.map_cons, Fields.valuesIn_cons, Fields.valuesIn_cons, ih]
    split_ifs with h h' h'
    · rfl
    · exact absurd h h'
    · exact absurd h' h
    · rfl

end TextSocket.Http

namespace TextSocket.Http.Request

open Head (IsLine EndsAtBlankLine trimmed lineEnd)

/-! ## The parts of a written request -/

/-- A target that can be written: text without controls and spaces. -/
structure IsTarget (target : Bytes) : Prop where
  /-- It is not empty. -/
  nonempty : target ≠ []
  /-- It has neither controls nor spaces. -/
  bytes : ∀ b ∈ target, Head.isTargetByte b = true
  /-- It is valid UTF-8. -/
  text : (Bytes.text? target).isSome = true

section render

variable {method : Method} {target : Bytes} {lines : List (Bytes × Bytes)}

theorem token_method (method : Method) : ∀ b ∈ method.bytes, Ascii.isToken b = true :=
  List.all_eq_true.1 method.valid.2

theorem render_eq (rest : Bytes) : render method target lines ++ rest
    = method.bytes ++ 32 :: (target ++ 32 :: (Head.protocolName ++ 49 :: (lineEnd
        ++ (lines.flatMap Head.writeField ++ lineEnd ++ rest)))) := by
  simp [render, Head.write, startLine, List.append_assoc]

theorem ofBytes?_method (method : Method) : Method.ofBytes? method.bytes = some method := dif_pos method.valid

/-- A request is made of a target and of lines that were written from fields. -/
theorem ofParts_of_writes {made : Target} (htarget : Target.parse target = .ok made)
    {fields : List (Header.Name × Header.Value)} (hlines : List.Forall₂ Writes lines fields) :
    ofParts ⟨method.bytes, target, lines.map trimmed⟩
      = .ok ⟨method, made, .ofList (fields.map trimmedField)⟩ := by
  simp only [ofParts, ofBytes?_method, htarget, fieldsOfLines_of_writes hlines]
  rfl

theorem skipBlankLines_method (rest : Bytes) :
    Head.skipBlankLines (method.bytes ++ rest) = .found () (method.bytes ++ rest) :=
  Head.skipBlankLines_begins ((Head.begins_of_isToken method.valid.1 (token_method method)).append rest)

/-- **A written request is split into what it was written from.** -/
theorem split_render (htarget : IsTarget target) (hlines : ∀ line ∈ lines, IsLine line)
    (hfew : lines.length ≤ fieldLimit) (rest : Bytes) :
    split (render method target lines ++ rest) = .found ⟨method.bytes, target, lines.map trimmed⟩ rest := by
  rw [render_eq, split, skipBlankLines_method]
  simp only [Scan.andThen, Head.readToken_append method.valid.1 (token_method method),
    Head.readTarget_append htarget.nonempty htarget.bytes htarget.text, Head.readVersion_one,
    Head.readLineEnd_append, Head.readFields_writeFields hlines hfew]
  rfl

/-- A written request is read as what its parts make. -/
theorem parse_render (htarget : IsTarget target) (hlines : ∀ line ∈ lines, IsLine line)
    (hfew : lines.length ≤ fieldLimit) {request : Request}
    (hparts : ofParts ⟨method.bytes, target, lines.map trimmed⟩ = .ok request) (rest : Bytes) :
    parse (render method target lines ++ rest) = .ok (request, rest) := by
  simp only [parse, split_render htarget hlines hfew, hparts]

/-- A written request with more header lines than may be read is not taken apart. -/
theorem parse_render_tooMany (htarget : IsTarget target) (hlines : ∀ line ∈ lines, IsLine line)
    (hmany : fieldLimit < lines.length) (rest : Bytes) :
    parse (render method target lines ++ rest) = .error (.head .tooManyHeaders) := by
  rw [parse, render_eq, split, skipBlankLines_method]
  simp only [Scan.andThen, Scan.map, Head.readToken_append method.valid.1 (token_method method),
    Head.readTarget_append htarget.nonempty htarget.bytes htarget.text, Head.readVersion_one,
    Head.readLineEnd_append, List.append_assoc, Head.readFields_tooMany hlines hmany]

/-- Nor is one whose target holds a control. -/
theorem parse_render_control (hspace : 32 ∉ target) {control : UInt8} (hcontrol : control ∈ target)
    (hbyte : Head.isTargetByte control = false) (rest : Bytes) :
    parse (render method target lines ++ rest) = .error (.head .token) := by
  rw [parse, render_eq, split, skipBlankLines_method]
  simp only [Scan.andThen, Head.readToken_append method.valid.1 (token_method method),
    Head.readTarget_fault hspace hcontrol hbyte]

/-- A written request ends with its first blank line, unless its target holds one. -/
theorem endsAtBlankLine_of_not_mem (htarget : 13 ∉ target) (hlines : ∀ line ∈ lines, IsLine line) :
    EndsAtBlankLine (render method target lines) := by
  apply Head.endsAtBlankLine_write _ hlines
  have token : Ascii.isToken 13 = false := by decide
  have rest : (13 : UInt8) ∉ [32] ∧ (13 : UInt8) ∉ Head.protocolName ∧ (13 : UInt8) ∉ [49] := by decide
  simp only [startLine, List.mem_append, not_or]
  refine ⟨⟨⟨⟨⟨?_, rest.1⟩, htarget⟩, rest.1⟩, rest.2.1⟩, rest.2.2⟩
  intro h
  rw [token_method method 13 h] at token
  cases token

/-- **A written request ends with its first blank line.** -/
theorem endsAtBlankLine_render (htarget : ∀ b ∈ target, Head.isTargetByte b = true)
    (hlines : ∀ line ∈ lines, IsLine line) : EndsAtBlankLine (render method target lines) := by
  refine endsAtBlankLine_of_not_mem (fun h => ?_) hlines
  have byte : Head.isTargetByte 13 = false := by decide
  rw [htarget 13 h] at byte
  cases byte

end render

end TextSocket.Http.Request
