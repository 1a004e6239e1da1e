import TextSocket.Proofs.Inbound.Request
import TextSocket.Proofs.Upgrade.Admission

/-!
# `Proofs.Upgrade.Spread` — a list that is spread over several lines

A list in a header may be written in one line, with commas between its parts, or in several lines with one name. The
checks of an upgrade read the first line of each name, so the two are not the same to them: **a connection list that is
spread over lines is judged like its first line** (`verdict_spread`). The verdict is that of the list in one line exactly
if the first line lists the upgrade when the whole list does. A list that names the upgrade in a later line only is
refused, for the reason that it does not name it (`verdict_spread_refused`).

## Contents

* `verdict` — what comes of the header lines of a request;
* `verdict_of_fault`, `verdict_of_long`, `verdict_of_fields` — what it depends on;
* `judge_eq_iff` — what the connection list has to do with the checks;
* `Lists`, `ListsWhole`, `Beside.compares` — connection lists among the same lines;
* `Spread`, `verdict_spread` — the main result.
-/

namespace TextSocket.Upgrade

open Header (Fields Name Value)
open Http (Method Target Request RequestFault Writes)
open Http.Head (IsLine trimmed)
open Inbound (valuesOf)

/-! ## What comes of header lines -/

/-- **What comes of the header lines of a request**: it is read, and its fields are checked. -/
def verdict (method : Method) (target : Bytes) (lines : List (Bytes × Bytes)) :
    Except RequestFault (Except Refusal Bytes) :=
  (Request.parse (Request.render method target lines)).map fun read => judge read.1.fields

/-- The name of a line is not longer than a name may be. -/
def Short (lines : List (Bytes × Bytes)) : Prop := ∀ line ∈ lines, line.1.length ≤ 65535

section verdict

variable {method : Method} {target : Bytes} {lines : List (Bytes × Bytes)} (htarget : Request.IsTarget target)
  (hlines : ∀ line ∈ lines, IsLine line) (hfew : lines.length ≤ Request.fieldLimit)

/-- A line with a long name stands for no field. -/
theorem fieldOfLine_of_long {line : Bytes × Bytes} (hlong : ¬ line.1.length ≤ 65535) :
    Http.fieldOfLine (trimmed line) = .error .headerName := by
  have hname : Name.ofBytes? line.1 = none := by
    rw [Option.eq_none_iff_forall_ne_some]
    intro name hsome
    exact hlong (Name.exists_ofBytes?_iff.mp ⟨name, hsome⟩).short
  simp only [Http.fieldOfLine, trimmed, hname]

include hlines in
/-- Lines of which one has a long name stand for no fields. -/
theorem fieldsOfLines_of_long (hlong : ¬ Short lines) : Http.fieldsOfLines (lines.map trimmed) = .error .headerName := by
  have hfails : (lines.map trimmed).mapM Http.fieldOfLine = .error .headerName := by
    induction lines with
    | nil => exact absurd nofun hlong
    | cons line lines ih =>
      obtain ⟨hline, hlines⟩ := List.forall_mem_cons.mp hlines
      rw [List.map_cons, List.mapM_cons]
      by_cases hshort : line.1.length ≤ 65535
      · obtain ⟨field, hwrites⟩ := Inbound.exists_writes_line hline hshort
        have hrest : ¬ Short lines := fun h => hlong (List.forall_mem_cons.mpr ⟨hshort, h⟩)
        rw [Http.fieldOfLine_of_writes hwrites, ih hlines hrest]
        rfl
      · rw [fieldOfLine_of_long hshort]
        rfl
  rw [Http.fieldsOfLines, hfails]
  rfl

include htarget hlines hfew

/-- What comes of lines is what comes of the parts that they are taken apart into. -/
theorem verdict_eq : verdict method target lines
    = match Request.ofParts ⟨method.bytes, target, lines.map trimmed⟩ with
      | .ok request => .ok (judge request.fields)
      | .error cause => .error (.part cause) := by
  have hsplit : Request.split (Request.render method target lines ++ [])
      = .found ⟨method.bytes, target, lines.map trimmed⟩ [] := Request.split_render htarget hlines hfew []
  rw [List.append_nil] at hsplit
  cases hparts : Request.ofParts ⟨method.bytes, target, lines.map trimmed⟩ with
  | ok request =>
    simp only [verdict, Request.parse, hsplit, hparts]
    rfl
  | error cause =>
    simp only [verdict, Request.parse, hsplit, hparts]
    rfl

/-- A target that is none is reported, whatever the lines are. -/
theorem verdict_of_fault {cause : Http.PartFault} (hmade : Target.parse target = .error cause) :
    verdict method target lines = .error (.part cause) := by
  have hparts : Request.ofParts ⟨method.bytes, target, lines.map trimmed⟩ = .error cause := by
    simp only [Request.ofParts, Request.ofBytes?_method, hmade]
    rfl
  rw [verdict_eq htarget hlines hfew, hparts]

/-- So is a long name. -/
theorem verdict_of_long {made : Target} (hmade : Target.parse target = .ok made) (hlong : ¬ Short lines) :
    verdict method target lines = .error (.part .headerName) := by
  have hparts : Request.ofParts ⟨method.bytes, target, lines.map trimmed⟩ = .error .headerName := by
    simp only [Request.ofParts, Request.ofBytes?_method, hmade, fieldsOfLines_of_long hlines hlong]
    rfl
  rw [verdict_eq htarget hlines hfew, hparts]

variable (method) in
/-- **Otherwise the fields are checked that have the values of the lines.** -/
theorem verdict_of_fields {made : Target} (hmade : Target.parse target = .ok made) (hshort : Short lines) :
    ∃ fields : Fields, verdict method target lines = .ok (judge fields) ∧
      ∀ name, (fields.values name).map Value.bytes = (valuesOf lines name.bytes).map Ascii.trimBlanks := by
  obtain ⟨fields, hwrites⟩ := Inbound.exists_writes fun line h => ⟨hlines line h, hshort line h⟩
  refine ⟨.ofList (fields.map Http.trimmedField), ?_, ?_⟩
  · rw [verdict_eq htarget hlines hfew, Request.ofParts_of_writes hmade hwrites]
  · intro name
    rw [Fields.values_ofList, Inbound.valuesIn_map_trimmedField hwrites]

end verdict

/-! ## The checks behind that of the list -/

section checks

variable {fields other : Fields} {connection value : Value}

/-- Fields that are alike in what is checked behind the connection list. -/
structure Alike (fields other : Fields) : Prop where
  /-- The upgrade field. -/
  upgrade : fields.get? .upgrade = other.get? .upgrade
  /-- The version. -/
  version : fields.get? .socketVersion = other.get? .socketVersion
  /-- The key. -/
  key : fields.get? .socketKey = other.get? .socketKey

/-- A list without the upgrade is a reason to refuse. -/
theorem judge_unlisted (hvalue : fields.get? .connection = some value) (hlists : ¬ ListsUpgrade value) :
    judge fields = .error .connectionWithoutUpgrade := by
  have hfails : (!lists (Bytes.ofText "upgrade") value) = true := by
    rw [← lists_iff, Bool.not_eq_true] at hlists
    rw [hlists]
    rfl
  unfold judge
  simp only [hvalue, hfails, if_true]

/-- A request is refused for one of the reasons in the list. -/
theorem FailsFirst.mem {list : List (Refusal × Prop)} {refusal : Refusal} (h : FailsFirst list refusal) :
    refusal ∈ list.map Prod.fst := by
  induction h with
  | here _ => exact List.mem_cons_self
  | there _ _ ih => exact List.mem_cons_of_mem _ ih

/-- It is one of a list without the upgrade only. -/
theorem judge_listed (hvalue : fields.get? .connection = some value) (hlists : ListsUpgrade value) :
    judge fields ≠ .error .connectionWithoutUpgrade := by
  intro hjudge
  rcases judge_settles fields with ⟨accept, hok, -⟩ | ⟨refusal, hrefused, hfirst⟩
  · rw [hok] at hjudge
    cases hjudge
  · rw [hrefused] at hjudge
    cases hjudge
    -- the reason stands second in the list and nowhere else, and there the requirement is met
    cases hfirst with
    | there _ hlater =>
      cases hlater with
      | here hfails => exact hfails ⟨value, hvalue, hlists⟩
      | there _ hlater => simpa using hlater.mem

/-- **Two lists with the upgrade make no difference.** -/
theorem judge_alike (halike : Alike fields other) (hvalue : fields.get? .connection = some value)
    (hconnection : other.get? .connection = some connection) (hlists : ListsUpgrade value)
    (hlisted : ListsUpgrade connection) : judge fields = judge other := by
  rw [← lists_iff] at hlists hlisted
  unfold judge
  simp only [hvalue, hconnection, hlists, hlisted, halike.upgrade, halike.version, halike.key]

/-- **Two lists make no difference exactly if both have the upgrade or neither has.** -/
theorem judge_eq_iff (halike : Alike fields other) (hvalue : fields.get? .connection = some value)
    (hconnection : other.get? .connection = some connection) :
    judge fields = judge other ↔ (ListsUpgrade value ↔ ListsUpgrade connection) := by
  by_cases hlists : ListsUpgrade value
  · by_cases hlisted : ListsUpgrade connection
    · exact iff_of_true (judge_alike halike hvalue hconnection hlists hlisted) (iff_of_true hlists hlisted)
    · refine iff_of_false ?_ fun h => hlisted (h.mp hlists)
      rw [judge_unlisted hconnection hlisted]
      exact judge_listed hvalue hlists
  · by_cases hlisted : ListsUpgrade connection
    · refine iff_of_false ?_ fun h => hlists (h.mpr hlisted)
      rw [judge_unlisted hvalue hlists]
      exact (judge_listed hconnection hlisted).symm
    · rw [judge_unlisted hvalue hlists, judge_unlisted hconnection hlisted]
      exact iff_of_true rfl (iff_of_false hlists hlisted)

end checks

/-! ## Lists over several lines -/

/-- Whether a line is one of the connection list. -/
def isConnection (line : Bytes × Bytes) : Bool := line.1.map Ascii.lower == Name.connection.bytes

/-- Bytes that list the upgrade: they show as text, and the word is one of the elements. -/
structure Lists (list : Bytes) : Prop where
  /-- Every byte shows. -/
  shows : ∀ b ∈ list, Ascii.isPrintable b = true
  /-- The word is an element. -/
  word : ∃ word, Ascii.IsElement word list ∧ word.map Ascii.lower = Bytes.ofText "upgrade"

/-- The list in one line lists the upgrade: all of its parts show, and one of them names it. -/
structure ListsWhole (parts : List Bytes) : Prop where
  /-- Every part shows. -/
  shows : ∀ part ∈ parts, ∀ b ∈ part, Ascii.isPrintable b = true
  /-- The word is an element of a part. -/
  word : ∃ part ∈ parts, ∃ word, Ascii.IsElement word part ∧ word.map Ascii.lower = Bytes.ofText "upgrade"

section lists

/-- A value lists the upgrade as the bytes do that it was read from. -/
theorem listsUpgrade_iff {value : Value} {list : Bytes} (hvalue : value.bytes = Ascii.trimBlanks list) :
    ListsUpgrade value ↔ Lists list := by
  have hletters : ∀ b ∈ Bytes.ofText "upgrade", Ascii.isLower b = true := by decide +kernel
  have hblank : ∀ b : UInt8, Ascii.isBlank b = true → Ascii.isPrintable b = true := by
    apply Bytes.forall_byte
    decide +kernel
  obtain ⟨left, right, hpad, hleft, hright⟩ := Ascii.exists_pad list
  rw [ListsUpgrade, hvalue, Ascii.isElement_trimBlanks hletters (by decide), Value.isPrintable, List.all_eq_true, hvalue]
  constructor
  · rintro ⟨hshows, hword⟩
    refine ⟨fun b hb => ?_, hword⟩
    rw [hpad] at hb
    rcases List.mem_append.mp hb with hb | hb
    · rcases List.mem_append.mp hb with hb | hb
      · exact hblank b (hleft b hb)
      · exact hshows b hb
    · exact hblank b (hright b hb)
  · rintro ⟨hshows, hword⟩
    exact ⟨fun b hb => hshows b (Http.mem_of_mem_trimBlanks hb), hword⟩

theorem mem_intercalate {separator b : UInt8} {part : Bytes} {parts : List Bytes}
    (h : b ∈ [separator].intercalate (part :: parts)) : b = separator ∨ ∃ p ∈ part :: parts, b ∈ p := by
  induction parts generalizing part with
  | nil =>
    rw [List.intercalate_singleton] at h
    exact Or.inr ⟨part, List.mem_cons_self, h⟩
  | cons next parts ih =>
    rw [List.intercalate_cons_cons, List.append_assoc, List.mem_append, List.singleton_append, List.mem_cons] at h
    rcases h with h | h | h
    · exact Or.inr ⟨part, List.mem_cons_self, h⟩
    · exact Or.inl h
    · rcases ih h with h | ⟨p, hp, hb⟩
      · exact Or.inl h
      · exact Or.inr ⟨p, List.mem_cons_of_mem _ hp, hb⟩

theorem mem_intercalate_of_mem {separator b : UInt8} {part : Bytes} {parts : List Bytes}
    (h : ∃ p ∈ part :: parts, b ∈ p) : b ∈ [separator].intercalate (part :: parts) := by
  obtain ⟨p, hp, hb⟩ := h
  induction parts generalizing part with
  | nil =>
    rw [List.mem_singleton] at hp
    rw [List.intercalate_singleton, ← hp]
    exact hb
  | cons next parts ih =>
    rw [List.intercalate_cons_cons]
    rcases List.mem_cons.mp hp with rfl | hp
    · exact List.mem_append_left _ (List.mem_append_left _ hb)
    · exact List.mem_append_right _ (ih hp)

/-- The list in one line lists the upgrade if its parts do so together. -/
theorem lists_intercalate (part : Bytes) (parts : List Bytes) :
    Lists ([44].intercalate (part :: parts)) ↔ ListsWhole (part :: parts) := by
  have hletters : ∀ b ∈ Bytes.ofText "upgrade", Ascii.isLower b = true := by decide +kernel
  have hword := Ascii.isElement_intercalate hletters (by decide) part parts
  constructor
  · rintro ⟨hshows, hlists⟩
    exact ⟨fun p hp b hb => hshows b (mem_intercalate_of_mem ⟨p, hp, hb⟩), hword.mp hlists⟩
  · rintro ⟨hshows, hlists⟩
    refine ⟨fun b hb => ?_, hword.mpr hlists⟩
    rcases mem_intercalate hb with rfl | ⟨p, hp, hb⟩
    · decide
    · exact hshows p hp b hb

end lists

/-! ## Two connection lists among the same lines -/

section compare

variable {method : Method} {target : Bytes} {lines other : List (Bytes × Bytes)} {first second : Bytes}

/-- **Lines that differ in the connection list only**, with the first line that each has of it. -/
structure Beside (lines other : List (Bytes × Bytes)) (first second : Bytes) : Prop where
  /-- The first line of one list. -/
  left : (valuesOf lines Name.connection.bytes).head? = some first
  /-- The first line of the other. -/
  right : (valuesOf other Name.connection.bytes).head? = some second
  /-- The other lines are the same. -/
  others : lines.filter (!isConnection ·) = other.filter (!isConnection ·)

/-- The names of a connection list are short. -/
theorem length_of_isConnection {line : Bytes × Bytes} (h : isConnection line = true) : line.1.length ≤ 65535 := by
  have hname : (line.1.map Ascii.lower).length = Name.connection.bytes.length := by rw [beq_iff_eq.mp h]
  rw [List.length_map] at hname
  rw [hname]
  decide

theorem short_iff : Short lines ↔ Short (lines.filter (!isConnection ·)) := by
  constructor
  · exact fun h line hline => h line (List.mem_of_mem_filter hline)
  · intro h line hline
    by_cases hconnection : isConnection line = true
    · exact length_of_isConnection hconnection
    · exact h line (List.mem_filter.mpr ⟨hline, by simp [hconnection]⟩)

/-- The values of another name do not depend on the connection list. -/
theorem valuesOf_filter {name : Bytes} (hname : name ≠ Name.connection.bytes) (lines : List (Bytes × Bytes)) :
    valuesOf (lines.filter (!isConnection ·)) name = valuesOf lines name := by
  rw [valuesOf, valuesOf, List.filter_filter]
  congr 1
  apply List.filter_congr
  intro line _
  by_cases hline : line.1.map Ascii.lower = name
  · simp [isConnection, hline, hname]
  · simp [hline]

/-- The fields of such lines are alike. -/
theorem Beside.alike (h : Beside lines other first second) {fields fields' : Fields}
    (hfields : ∀ name, (fields.values name).map Value.bytes = (valuesOf lines name.bytes).map Ascii.trimBlanks)
    (hfields' : ∀ name, (fields'.values name).map Value.bytes = (valuesOf other name.bytes).map Ascii.trimBlanks) :
    Alike fields fields' := by
  have hget {name : Name} (hname : name.bytes ≠ Name.connection.bytes) : fields.get? name = fields'.get? name := by
    have hvalues : (fields.values name).map Value.bytes = (fields'.values name).map Value.bytes := by
      rw [hfields, hfields', ← valuesOf_filter hname lines, ← valuesOf_filter hname other, h.others]
    rw [Fields.get?, Fields.get?, List.map_injective_iff.mpr (fun _ _ => Value.eq_of_bytes) hvalues]
  constructor
  case upgrade => exact hget (by decide)
  case version => exact hget (by decide)
  case key => exact hget (by decide)

/-- The list that is checked is the first line. -/
theorem get?_connection {fields : Fields}
    (hfields : ∀ name, (fields.values name).map Value.bytes = (valuesOf lines name.bytes).map Ascii.trimBlanks)
    (hfirst : (valuesOf lines Name.connection.bytes).head? = some first) :
    ∃ value, fields.get? .connection = some value ∧ value.bytes = Ascii.trimBlanks first := by
  have hhead := congrArg List.head? (hfields .connection)
  rw [List.head?_map, List.head?_map, hfirst, Option.map_some, Option.map_eq_some_iff] at hhead
  exact hhead

/-- **What connection lists among the same lines come to.** -/
structure Compares (method : Method) (target : Bytes) (lines other : List (Bytes × Bytes)) (first second : Bytes) : Prop
    where
  /-- The request is read with both or with neither. -/
  fails : ∀ cause, verdict method target lines = .error cause ↔ verdict method target other = .error cause
  /-- The verdict is the same exactly if the request is not read, or if the first lines agree in listing the upgrade. -/
  same : verdict method target lines = verdict method target other ↔
    (∃ cause, verdict method target lines = .error cause) ∨ (Lists first ↔ Lists second)
  /-- Without the upgrade in the first line, the request is refused for this. -/
  refused : ¬ Lists first → (∃ decision, verdict method target lines = .ok decision) →
    verdict method target lines = .ok (.error .connectionWithoutUpgrade)

/-- The same failure with both. -/
theorem compares_of_error {cause : RequestFault} (hlines : verdict method target lines = .error cause)
    (hother : verdict method target other = .error cause) : Compares method target lines other first second := by
  constructor
  case fails => exact fun _ => by rw [hlines, hother]
  case same => exact ⟨fun _ => .inl ⟨cause, hlines⟩, fun _ => by rw [hlines, hother]⟩
  case refused =>
    rintro - ⟨decision, hdecision⟩
    rw [hlines] at hdecision
    cases hdecision

/-- **Connection lists among the same lines are compared by their first lines.** -/
theorem Beside.compares (h : Beside lines other first second) (htarget : Request.IsTarget target)
    (hlines : ∀ line ∈ lines, IsLine line) (hother : ∀ line ∈ other, IsLine line)
    (hfew : lines.length ≤ Request.fieldLimit) (hfew' : other.length ≤ Request.fieldLimit) :
    Compares method target lines other first second := by
  cases hmade : Target.parse target with
  | error cause =>
    exact compares_of_error (verdict_of_fault htarget hlines hfew hmade) (verdict_of_fault htarget hother hfew' hmade)
  | ok made =>
    have hshort : Short lines ↔ Short other := by rw [short_iff, h.others, ← short_iff]
    by_cases hlong : Short lines
    case neg =>
      exact compares_of_error (verdict_of_long htarget hlines hfew hmade hlong)
        (verdict_of_long htarget hother hfew' hmade fun h => hlong (hshort.mpr h))
    obtain ⟨fields, hverdict, hfields⟩ := verdict_of_fields method htarget hlines hfew hmade hlong
    obtain ⟨fields', hverdict', hfields'⟩ := verdict_of_fields method htarget hother hfew' hmade (hshort.mp hlong)
    have halike := h.alike hfields hfields'
    obtain ⟨value, hvalue, hbytes⟩ := get?_connection hfields h.left
    obtain ⟨value', hvalue', hbytes'⟩ := get?_connection hfields' h.right
    constructor
    case fails =>
      intro cause
      rw [hverdict, hverdict']
      exact ⟨nofun, nofun⟩
    case same =>
      rw [← listsUpgrade_iff hbytes, ← listsUpgrade_iff hbytes', ← judge_eq_iff halike hvalue hvalue', hverdict, hverdict']
      constructor
      · intro hsame
        exact .inr (Except.ok.inj hsame)
      · rintro (⟨cause, hcause⟩ | hsame)
        · cases hcause
        · rw [hsame]
    case refused =>
      rw [← listsUpgrade_iff hbytes]
      intro hlists _
      rw [hverdict, judge_unlisted hvalue hlists]

end compare

/-! ## One list over several lines -/

/-- **A list over several lines**: `lines` have its parts in lines of their own, `first` in front of `more`, and `single` have
    it in one line with commas between the parts. -/
structure Spread (lines single : List (Bytes × Bytes)) (first : Bytes) (more : List Bytes) : Prop where
  /-- The lines of the list, in their order and wherever they stand. -/
  parts : valuesOf lines Name.connection.bytes = first :: more
  /-- The one line. -/
  whole : valuesOf single Name.connection.bytes = [[44].intercalate (first :: more)]
  /-- The other lines are the same. -/
  others : lines.filter (!isConnection ·) = single.filter (!isConnection ·)

section spread

variable {target : Bytes} {lines single : List (Bytes × Bytes)} {first : Bytes} {more : List Bytes}

/-- There are as many connection lines as values of the list. -/
theorem length_lines (lines : List (Bytes × Bytes)) :
    lines.length = (valuesOf lines Name.connection.bytes).length + (lines.filter (!isConnection ·)).length := by
  rw [valuesOf, List.length_map]
  exact List.length_eq_length_filter_add isConnection

/-- A part of the list is the value of a line. -/
theorem mem_of_mem_valuesOf {value name : Bytes} (h : value ∈ valuesOf lines name) : ∃ line ∈ lines, line.2 = value := by
  obtain ⟨line, hline, rfl⟩ := List.mem_map.mp h
  exact ⟨line, List.mem_of_mem_filter hline, rfl⟩

/-- The list in one line can be written if it can be in several. -/
theorem Spread.isLine (h : Spread lines single first more) (hlines : ∀ line ∈ lines, IsLine line) :
    ∀ line ∈ single, IsLine line := by
  intro line hline
  by_cases hconnection : isConnection line = true
  case neg =>
    have hothers : line ∈ single.filter (!isConnection ·) := List.mem_filter.mpr ⟨hline, by simp [hconnection]⟩
    rw [← h.others] at hothers
    exact hlines line (List.mem_of_mem_filter hothers)
  have hname : line.1.map Ascii.lower = Name.connection.bytes := beq_iff_eq.mp hconnection
  have hvalue : line.2 = [44].intercalate (first :: more) := by
    have hmem : line.2 ∈ valuesOf single Name.connection.bytes :=
      List.mem_map_of_mem (List.mem_filter.mpr ⟨hline, hconnection⟩)
    rw [h.whole] at hmem
    exact List.mem_singleton.mp hmem
  constructor
  case named =>
    intro hempty
    rw [hempty] at hname
    cases hname
  case token =>
    have htoken : ∀ b ∈ Name.connection.bytes, Ascii.isToken b = true := by decide +kernel
    exact fun b hb => Header.isToken_of_lower (htoken _ (hname ▸ List.mem_map_of_mem hb))
  case value =>
    intro b hb
    rw [hvalue] at hb
    rcases mem_intercalate hb with rfl | ⟨part, hpart, hb⟩
    · decide
    · obtain ⟨partLine, hmem, rfl⟩ := mem_of_mem_valuesOf (h.parts ▸ hpart)
      exact (hlines partLine hmem).value b hb

/-- **A connection list over several lines is judged like its first line.** The list in one line has the same verdict exactly
    if the first line lists the upgrade when the whole list does, or if the request is not read; and it is not read in the
    one form if it is not in the other, but for a limit on the number of lines. -/
theorem verdict_spread (method : Method) (hspread : Spread lines single first more) (htarget : Request.IsTarget target)
    (hlines : ∀ line ∈ lines, IsLine line) :
    (lines.length ≤ Request.fieldLimit →
      (verdict method target lines = verdict method target single ↔
        (∃ cause, verdict method target lines = .error cause) ∨ (Lists first ↔ ListsWhole (first :: more))) ∧
      (∀ cause, verdict method target lines = .error cause ↔ verdict method target single = .error cause) ∧
      (¬ Lists first → (∃ decision, verdict method target lines = .ok decision) →
        verdict method target lines = .ok (.error .connectionWithoutUpgrade)) ∧
      ∀ alone, valuesOf alone Name.connection.bytes = [first] →
        lines.filter (!isConnection ·) = alone.filter (!isConnection ·) →
        (∀ line ∈ alone, IsLine line) → verdict method target lines = verdict method target alone) ∧
    (Request.fieldLimit < lines.length → verdict method target lines = .error (.head .tooManyHeaders)) := by
  have hlength := length_lines lines
  have hothers := congrArg List.length hspread.others
  rw [hspread.parts, List.length_cons] at hlength
  constructor
  · intro hfew
    have hwhole : Compares method target lines single first ([44].intercalate (first :: more)) := by
      have hbeside : Beside lines single first ([44].intercalate (first :: more)) :=
        ⟨by rw [hspread.parts]; rfl, by rw [hspread.whole]; rfl, hspread.others⟩
      apply hbeside.compares htarget hlines (hspread.isLine hlines) hfew
      rw [length_lines single, hspread.whole, List.length_singleton, ← hothers]
      omega
    have hsame := hwhole.same
    rw [lists_intercalate] at hsame
    refine ⟨hsame, hwhole.fails, hwhole.refused, ?_⟩
    intro alone hvalues halone hisLine
    have hbeside : Beside lines alone first first :=
      ⟨by rw [hspread.parts]; rfl, by rw [hvalues]; rfl, halone⟩
    refine (hbeside.compares htarget hlines hisLine hfew ?_).same.mpr (.inr Iff.rfl)
    rw [length_lines alone, hvalues, List.length_singleton, ← congrArg List.length halone]
    omega
  · intro hmany
    have hparse : Request.parse (Request.render method target lines ++ []) = .error (.head .tooManyHeaders) :=
      Request.parse_render_tooMany htarget hlines hmany []
    rw [List.append_nil] at hparse
    rw [verdict, hparse]
    rfl

end spread

/-- A request whose connection list has the upgrade in its second line. -/
def spreadLines : List (Bytes × Bytes) :=
  [Http.line "Connection" "keep-alive", Http.line "Upgrade" "websocket", Http.line "connection" "Upgrade",
    Http.line "Sec-WebSocket-Version" "13", Http.line "Sec-WebSocket-Key" "dGhlIHNhbXBsZSBub25jZQ=="]

/-- The same request with the list in one line. -/
def singleLines : List (Bytes × Bytes) :=
  [Http.line "Connection" "keep-alive,Upgrade", Http.line "Upgrade" "websocket",
    Http.line "Sec-WebSocket-Version" "13", Http.line "Sec-WebSocket-Key" "dGhlIHNhbXBsZSBub25jZQ=="]

theorem spread_sample : Spread spreadLines singleLines (Bytes.ofText "keep-alive") [Bytes.ofText "Upgrade"] :=
  ⟨by decide +kernel, by decide +kernel, by decide +kernel⟩

/-- The list in one line is admitted, and over two lines it is refused for not having what it has. -/
theorem verdict_spread_refused :
    Spread spreadLines singleLines (Bytes.ofText "keep-alive") [Bytes.ofText "Upgrade"] ∧
      verdict .get [47] singleLines = .ok (.ok (Bytes.ofText "s3pPLMBiTxaQ9kYGzzhZRbK+xOo=")) ∧
      verdict .get [47] spreadLines = .ok (.error .connectionWithoutUpgrade) :=
  ⟨spread_sample, by decide +kernel, by decide +kernel⟩

/-- The request is judged like one without the second line of the list, and one with too many lines is not read. -/
theorem verdict_spread_of_sample :
    verdict .get [47] spreadLines
        = verdict .get [47] (Http.line "Connection" "keep-alive" :: singleLines.filter (!isConnection ·)) ∧
      (∀ cause, verdict .get [47] spreadLines = .error cause ↔ verdict .get [47] singleLines = .error cause) ∧
      verdict .get [47] (List.replicate 65 (Http.line "Connection" "Upgrade")) = .error (.head .tooManyHeaders) := by
  have htarget : Request.IsTarget [47] := ⟨by decide, List.all_eq_true.1 rfl, rfl⟩
  obtain ⟨-, hfails, -, halone⟩ :=
    (verdict_spread .get spread_sample htarget (by decide +kernel)).1 (by decide)
  refine ⟨halone _ (by decide +kernel) (by decide +kernel) (by decide +kernel), hfails, ?_⟩
  have hcrowded : Spread (List.replicate 65 (Http.line "Connection" "Upgrade"))
      [(Bytes.ofText "Connection", [44].intercalate (List.replicate 65 (Bytes.ofText "Upgrade")))]
      (Bytes.ofText "Upgrade") (List.replicate 64 (Bytes.ofText "Upgrade")) :=
    ⟨by decide +kernel, by decide +kernel, by decide +kernel⟩
  exact (verdict_spread .get hcrowded htarget (by decide +kernel)).2 (by decide)

end TextSocket.Upgrade
