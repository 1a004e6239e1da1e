import TextSocket.Proofs.Http.Target
import TextSocket.Proofs.Inbound.Head

/-!
# `Proofs.Inbound.Request` — a request is read as it was written

A head passes three readers: one looks for its blank line, one takes the lines apart, and one makes names and values of
them. **What is read is the request that was written** (`read_rendered`): its method, its target, and under each name the
values of the lines with this name, in their order.

There is one byte on which the readers differ. A path may hold the control 127 and keeps it, but no line of a head may,
so **a target with this byte is refused** although it is one (`delete_refused`).

## Contents

* `IsPlain`, `valuesOf`, `Holds` — header lines, and the fields that hold them and nothing else;
* `exists_writes`, `holds_of_writes` — the fields of lines;
* `read_rendered` — the main result.
-/

namespace TextSocket.Inbound

open Header (Fields Name Value)
open Http (Method Target Writes)
open Http.Head (IsLine IsBare)
open Net (Attempt Wire)

/-! ## Header lines and the fields that hold them -/

/-- A header line with a name in any case, and with a value that no blank begins or ends. -/
structure IsPlain (line : Bytes × Bytes) : Prop extends IsLine line where
  /-- Nothing of the value is trimmed. -/
  bare : IsBare line.2

instance (line : Bytes × Bytes) : Decidable (IsPlain line) :=
  decidable_of_iff (IsLine line ∧ IsBare line.2) ⟨fun h => ⟨h.1, h.2⟩, fun h => ⟨h.toIsLine, h.bare⟩⟩

/-- The values of the lines with a name, in the order of the lines. The case of the name does not matter. -/
def valuesOf (lines : List (Bytes × Bytes)) (name : Bytes) : List Bytes :=
  (lines.filter fun line => line.1.map Ascii.lower == name).map Prod.snd

theorem valuesOf_cons (line : Bytes × Bytes) (lines : List (Bytes × Bytes)) (name : Bytes) :
    valuesOf (line :: lines) name
      = if line.1.map Ascii.lower = name then line.2 :: valuesOf lines name else valuesOf lines name := by
  by_cases h : line.1.map Ascii.lower = name
  · simp [valuesOf, h]
  · simp [valuesOf, h]

/-- **Fields that hold lines and nothing else.** -/
structure Holds (fields : Fields) (lines : List (Bytes × Bytes)) : Prop where
  /-- Each name has the values of the lines with this name. -/
  values : ∀ name, (fields.values name).map Value.bytes = valuesOf lines name.bytes
  /-- The names stand in the order in which each of them came first. -/
  names : fields.entries.map (·.name.bytes) = (lines.map fun line => line.1.map Ascii.lower).eraseDups

section fields

variable {lines : List (Bytes × Bytes)} {fields : List (Name × Value)}

/-- A line stands for a field, unless its name is very long. -/
theorem exists_writes_line {line : Bytes × Bytes} (hline : IsLine line) (hshort : line.1.length ≤ 65535) :
    ∃ field, Writes line field := by
  obtain ⟨name, hname⟩ := Name.exists_ofBytes?_iff.mpr ⟨hline.named, hshort, hline.token⟩
  exact ⟨(name, ⟨line.2, List.all_eq_true.mpr hline.value⟩), hname, rfl⟩

theorem exists_writes (hlines : ∀ line ∈ lines, IsLine line ∧ line.1.length ≤ 65535) :
    ∃ fields, List.Forall₂ Writes lines fields := by
  apply Header.exists_forall₂
  intro line hline
  exact exists_writes_line (hlines line hline).1 (hlines line hline).2

theorem name_of_writes {line : Bytes × Bytes} {field : Name × Value} (h : Writes line field) :
    line.1.map Ascii.lower = field.1.bytes :=
  (Name.bytes_of_ofBytes? h.name).symm

/-- Fields that were written as lines have their values, without the blanks around them. -/
theorem valuesIn_map_trimmedField (h : List.Forall₂ Writes lines fields) (name : Name) :
    (Fields.valuesIn (fields.map Http.trimmedField) name).map Value.bytes
      = (valuesOf lines name.bytes).map Ascii.trimBlanks := by
  rw [Http.valuesIn_trimmedField]
  induction h with
  | nil => rfl
  | @cons line field lines fields hline _ ih =>
    rw [Fields.valuesIn_cons, valuesOf_cons, name_of_writes hline]
    by_cases hname : field.1 = name
    · rw [if_pos hname, if_pos (congrArg Name.bytes hname), List.map_cons, List.map_cons, List.map_cons, ih, hline.value,
        Http.trimmedValue_bytes]
    · rw [if_neg hname, if_neg fun e => hname (Name.eq_of_bytes e), ih]

theorem valuesIn_of_writes (h : List.Forall₂ Writes lines fields) (hbare : ∀ line ∈ lines, IsBare line.2) (name : Name) :
    (Fields.valuesIn (fields.map Http.trimmedField) name).map Value.bytes = valuesOf lines name.bytes := by
  rw [valuesIn_map_trimmedField h]
  refine (List.map_congr_left fun value hvalue => ?_).trans (List.map_id _)
  obtain ⟨line, hline, rfl⟩ := List.mem_map.mp hvalue
  exact Http.Head.trimBlanks_of_isBare (hbare line (List.mem_filter.mp hline).1)

theorem names_of_writes (h : List.Forall₂ Writes lines fields) :
    lines.map (fun line => line.1.map Ascii.lower) = (fields.map Prod.fst).map Name.bytes := by
  induction h with
  | nil => rfl
  | cons hline _ ih =>
    rw [List.map_cons, ih, name_of_writes hline]
    rfl

/-- Names are told apart by their bytes. -/
theorem eraseDups_bytes (names : List Name) : (names.map Name.bytes).eraseDups = names.eraseDups.map Name.bytes := by
  -- the induction is on the length, since the rest of the names is filtered
  induction hlength : names.length using Nat.strongRecOn generalizing names with
  | ind n ih =>
    cases names with
    | nil => rfl
    | cons name names =>
      have hfilter : (names.map Name.bytes).filter (fun b => !b == name.bytes)
          = (names.filter fun b => !b == name).map Name.bytes := by
        rw [List.filter_map]
        congr 1
        apply List.filter_congr
        intro other _
        have hiff : other.bytes = name.bytes ↔ other = name := ⟨Name.eq_of_bytes, congrArg Name.bytes⟩
        simp [hiff]
      have hless : (names.filter fun b => !b == name).length < n := by
        rw [← hlength]
        exact Nat.lt_succ_of_le (List.length_filter_le _ _)
      rw [List.map_cons, List.eraseDups_cons, List.eraseDups_cons, hfilter, ih _ hless _ rfl, List.map_cons]

/-- **The fields that are made of lines hold them and nothing else.** -/
theorem holds_of_writes (h : List.Forall₂ Writes lines fields) (hbare : ∀ line ∈ lines, IsBare line.2) :
    Holds (.ofList (fields.map Http.trimmedField)) lines where
  values := fun name => by rw [Fields.values_ofList, valuesIn_of_writes h hbare]
  names := by
    have hfst : (fields.map Http.trimmedField).map Prod.fst = fields.map Prod.fst := by
      rw [List.map_map]
      rfl
    have hnames := congrArg (List.map Name.bytes) (Fields.names_ofList (fields.map Http.trimmedField))
    rw [List.map_map, hfst] at hnames
    rw [names_of_writes h, eraseDups_bytes]
    exact hnames

end fields

/-! ## Reading what was written -/

section read

variable {method : Method} {target : Bytes} {made : Target} {lines : List (Bytes × Bytes)} {wire : Wire} {rest : Bytes}

/-- A name is not longer than the head in which it stands. -/
theorem length_name_le {line : Bytes × Bytes} (hline : line ∈ lines) :
    line.1.length ≤ (Http.Request.render method target lines).length := by
  have field : line.1.length ≤ (Http.Head.writeField line).length := by
    simp only [Http.Head.writeField, List.length_append]
    omega
  have all : (Http.Head.writeField line).length ≤ (lines.flatMap Http.Head.writeField).length :=
    (List.sublist_flatten_of_mem (List.mem_map_of_mem hline)).length_le
  simp only [Http.Request.render, Http.Head.write, List.length_append]
  omega

/-- A head that cannot be parsed is a failure of the protocol. -/
theorem readInTime_of_fault {head : Bytes} (hhead : Http.Head.EndsAtBlankLine head) (hfits : head.length ≤ headLimit)
    (hincoming : wire.incoming = head ++ rest) {cause : Http.RequestFault}
    (hparse : Http.Request.parse head = .error cause) (peer : Net.Endpoint) :
    readInTime peer wire = .error (.protocol cause.message) := by
  rw [readInTime, read, hincoming, readHead_of_fits hhead hfits]
  simp only [hparse]

/-- **A request is read as it was written**: with its method, its target, and the fields that hold its lines and nothing
    else, and the stream keeps what stands behind it. With too many lines it is refused, and so it is for a target that
    holds the control 127. -/
theorem read_rendered (hrooted : target.head? = some 47) (hmade : Target.parse target = .ok made)
    (hkept : made.text = target) (hlines : ∀ line ∈ lines, IsPlain line)
    (hfits : (Http.Request.render method target lines).length ≤ headLimit)
    (hincoming : wire.incoming = Http.Request.render method target lines ++ rest) (peer : Net.Endpoint) :
    (127 ∉ target → lines.length ≤ Http.Request.fieldLimit → ∃ fields, Holds fields lines ∧
      readInTime peer wire = .ok ⟨⟨method, made, fields⟩, peer, wire.take rest⟩) ∧
    (127 ∉ target → Http.Request.fieldLimit < lines.length →
      readInTime peer wire = .error (.protocol "Failed to parse HTTP request: too many headers")) ∧
    (127 ∈ target → readInTime peer wire = .error (.protocol "Failed to parse HTTP request: invalid token")) := by
  have hshown := Target.shown_of_parse hrooted hmade hkept
  have hline : ∀ line ∈ lines, IsLine line := fun line h => (hlines line h).toIsLine
  have hends : Http.Head.EndsAtBlankLine (Http.Request.render method target lines) :=
    Http.Request.endsAtBlankLine_of_not_mem (fun h => absurd (hshown 13 h) (by decide)) hline
  refine ⟨fun hdelete hfew => ?_, fun hdelete hmany => ?_, fun hdelete => ?_⟩
  · -- no name is longer than the head, so every line stands for a field
    obtain ⟨fields, hwrites⟩ := exists_writes fun line h =>
      ⟨hline line h, Nat.le_trans (length_name_le h) (Nat.le_trans hfits (by decide))⟩
    have hparts : Http.Request.ofParts ⟨method.bytes, target, lines.map Http.Head.trimmed⟩
        = .ok ⟨method, made, .ofList (fields.map Http.trimmedField)⟩ := Http.Request.ofParts_of_writes hmade hwrites
    have hparse := Http.Request.parse_render (Target.isTarget_of_parse hrooted hmade hkept hdelete) hline hfew hparts []
    rw [List.append_nil] at hparse
    refine ⟨_, holds_of_writes hwrites fun line h => (hlines line h).bare, ?_⟩
    rw [readInTime, read_of_parse hends hfits hincoming hparse]
  · have htarget := Target.isTarget_of_parse hrooted hmade hkept hdelete
    have hparse : Http.Request.parse (Http.Request.render method target lines ++ []) = .error (.head .tooManyHeaders) :=
      Http.Request.parse_render_tooMany htarget hline hmany []
    rw [List.append_nil] at hparse
    exact readInTime_of_fault hends hfits hincoming hparse peer
  · -- the target is taken up to the next blank, and the control stands in front of that
    have hspace : 32 ∉ target := fun h => absurd (hshown 32 h) (by decide)
    have hparse : Http.Request.parse (Http.Request.render method target lines ++ []) = .error (.head .token) :=
      Http.Request.parse_render_control hspace hdelete (by decide) []
    rw [List.append_nil] at hparse
    exact readInTime_of_fault hends hfits hincoming hparse peer

end read

/-- Header lines of which two share a name, one has no value and one has a value beyond ASCII. -/
def variedLines : List (Bytes × Bytes) :=
  [Http.line "X-Tag" "one", (Bytes.ofText "Host", []), (Bytes.ofText "x-tag", [195, 169, 255])]

/-- A stream on which a request with given lines has arrived, and something behind it. -/
def writtenWire (target : Bytes) (lines : List (Bytes × Bytes)) : Wire :=
  { Wire.fresh with incoming := Http.Request.render .get target lines ++ [104, 105] }

/-- A request is read, one has too many lines, and one has the control in its target. -/
theorem read_rendered_of_varied : ∃ made, Target.parse (Bytes.ofText "/a?b") = .ok made ∧
    (∃ fields, Holds fields variedLines ∧ readInTime ⟨⟨127, 0, 0, 1⟩, 4000⟩ (writtenWire (Bytes.ofText "/a?b") variedLines)
      = .ok ⟨⟨.get, made, fields⟩, ⟨⟨127, 0, 0, 1⟩, 4000⟩,
          (writtenWire (Bytes.ofText "/a?b") variedLines).take [104, 105]⟩) ∧
    readInTime ⟨⟨127, 0, 0, 1⟩, 4000⟩ (writtenWire (Bytes.ofText "/a?b") (List.replicate 65 (Http.line "X-Tag" "one")))
      = .error (.protocol "Failed to parse HTTP request: too many headers") ∧
    readInTime ⟨⟨127, 0, 0, 1⟩, 4000⟩ (writtenWire [47, 127] variedLines)
      = .error (.protocol "Failed to parse HTTP request: invalid token") := by
  have hmade : Target.parse (Bytes.ofText "/a?b")
      = .ok ⟨none, none, Bytes.ofText "/a", some (Bytes.ofText "b")⟩ := by decide
  have hcontrol : Target.parse [47, 127] = .ok ⟨none, none, [47, 127], none⟩ := by decide
  refine ⟨_, hmade, ?_, ?_, ?_⟩
  · exact (read_rendered (by decide) hmade (by decide) (by decide +kernel) (by decide +kernel) rfl _).1 (by decide)
      (by decide)
  · exact (read_rendered (by decide) hmade (by decide) (by decide +kernel) (by decide +kernel) rfl _).2.1 (by decide)
      (by decide)
  · exact (read_rendered (by decide) hcontrol (by decide) (by decide +kernel) (by decide +kernel) rfl _).2.2 (by decide)

/-- A target with the control 127 is one and is kept as it is, but a request for it is not read. -/
theorem delete_refused : Target.parse [47, 127] = .ok ⟨none, none, [47, 127], none⟩ ∧
    Target.text ⟨none, none, [47, 127], none⟩ = [47, 127] ∧
    (Http.Request.render .get [47, 127] []).length ≤ headLimit ∧
    ¬ ∃ inbound, readInTime ⟨⟨127, 0, 0, 1⟩, 4000⟩ (writtenWire [47, 127] []) = .ok inbound := by
  have hrefused : readInTime ⟨⟨127, 0, 0, 1⟩, 4000⟩ (writtenWire [47, 127] [])
      = .error (.protocol "Failed to parse HTTP request: invalid token") := rfl
  refine ⟨by decide, by decide, by decide, ?_⟩
  rintro ⟨inbound, hinbound⟩
  rw [hrefused] at hinbound
  cases hinbound

end TextSocket.Inbound
