import TextSocket.Header.Name
import TextSocket.Header.Value

/-!
# `TextSocket.Header.Fields` — the header fields of a message

Header fields are kept by name. Names stand in the order of their first insertion, and all values of one
name stand together in the order in which they were added. Erasing a name moves the last name into its
place, which keeps the remaining fields but not their order.

## Contents

* `Header.Fields` — the fields, with the proof that no name occurs twice;
* `Fields.values`, `Fields.get?`, `Fields.toList` — the views;
* `Fields.insert`, `Fields.append`, `Fields.override`, `Fields.erase` — the operations.
-/

namespace TextSocket.Header

/-- One name and its values, of which there is at least one. -/
structure Field where
  /-- The name. -/
  name : Name
  /-- The value added first. -/
  first : Value
  /-- The values added later, in order. -/
  more : List Value
  deriving DecidableEq, Repr

namespace Field

/-- All values of a field in order. -/
def values (field : Field) : List Value := field.first :: field.more

end Field

/-- Header fields by name. -/
structure Fields where
  /-- The fields, in the order of iteration. -/
  entries : List Field
  /-- No name has two fields. -/
  nodup : (entries.map Field.name).Nodup

namespace Fields

instance : DecidableEq Fields := fun a b =>
  if h : a.entries = b.entries then
    isTrue (by cases a; cases b; cases h; rfl)
  else
    isFalse (fun e => h (e ▸ rfl))

/-- No fields. -/
def empty : Fields := ⟨[], by simp⟩

instance : Inhabited Fields := ⟨empty⟩

/-! ## Views -/

/-- All pairs of a name and a value, in the order of iteration. -/
def toList (fields : Fields) : List (Name × Value) :=
  fields.entries.flatMap fun field => field.values.map fun value => (field.name, value)

/-- All values of a name, in the order in which they were added. -/
def values (fields : Fields) (name : Name) : List Value :=
  match fields.entries.find? (·.name == name) with
  | some field => field.values
  | none => []

/-- The first value of a name. -/
def get? (fields : Fields) (name : Name) : Option Value :=
  (fields.values name).head?

/-- The number of names. -/
def size (fields : Fields) : Nat := fields.entries.length

/-! ## Adding -/

/-- Changes the field of a name, or adds one at the end if there is none. -/
def alter (change : Field → Field) (new : Field) : List Field → List Field
  | [] => [new]
  | field :: rest =>
    if field.name = new.name then { change field with name := field.name } :: rest
    else field :: alter change new rest

theorem map_name_alter (change : Field → Field) (new : Field) (entries : List Field) :
    (alter change new entries).map Field.name =
      if new.name ∈ entries.map Field.name then entries.map Field.name
      else entries.map Field.name ++ [new.name] := by
  induction entries with
  | nil => simp [alter]
  | cons field rest ih =>
    by_cases h : field.name = new.name
    · simp [alter, h]
    · have h' : ¬ new.name = field.name := fun e => h e.symm
      simp only [alter, if_neg h, List.map_cons, ih, List.mem_cons, h', false_or]
      split <;> simp

theorem nodup_alter {change : Field → Field} {new : Field} {entries : List Field}
    (h : (entries.map Field.name).Nodup) : ((alter change new entries).map Field.name).Nodup := by
  rw [map_name_alter]
  split
  · exact h
  · rename_i hn
    rw [List.nodup_append]
    refine ⟨h, by simp, ?_⟩
    intro a ha b hb
    simp only [List.mem_singleton] at hb
    subst hb
    exact fun e => hn (e ▸ ha)

/-- Sets the only value of a name. A name that is present keeps its place. -/
def insert (fields : Fields) (name : Name) (value : Value) : Fields :=
  ⟨alter (fun field => ⟨field.name, value, []⟩) ⟨name, value, []⟩ fields.entries,
    nodup_alter fields.nodup⟩

/-- Adds a value to those of a name. -/
def append (fields : Fields) (name : Name) (value : Value) : Fields :=
  ⟨alter (fun field => ⟨field.name, field.first, field.more ++ [value]⟩) ⟨name, value, []⟩
    fields.entries, nodup_alter fields.nodup⟩

/-- Fields from pairs, each added to those before it. -/
def ofList (pairs : List (Name × Value)) : Fields :=
  pairs.foldl (fun fields pair => fields.append pair.1 pair.2) empty

/-- Gives each name of `news` exactly the values it has there. A name that is present keeps its place. -/
def override (fields news : Fields) : Fields :=
  news.entries.foldl
    (fun fields field => ⟨alter (fun _ => field) field fields.entries, nodup_alter fields.nodup⟩)
    fields

/-! ## Erasing -/

/-- Removes the first element that satisfies `p` and puts the last element of the list into its place. -/
def swapRemove (p : Field → Bool) : List Field → List Field
  | [] => []
  | field :: rest =>
    if p field then
      match rest.getLast? with
      | some last => last :: rest.dropLast
      | none => []
    else field :: swapRemove p rest

theorem perm_of_swapRemove (p : Field → Bool) (entries : List Field) :
    (swapRemove p entries).Perm (entries.eraseP p) := by
  induction entries with
  | nil => simp [swapRemove]
  | cons field rest ih =>
    by_cases h : p field = true
    · simp only [swapRemove, h, if_true, List.eraseP_cons_of_pos h]
      rcases List.eq_nil_or_concat rest with hr | ⟨front, last, hr⟩
      · simp [hr]
      · subst hr
        simp only [List.concat_eq_append, List.getLast?_append, List.getLast?_singleton,
          Option.some_or, List.dropLast_concat]
        exact (List.perm_append_singleton last front).symm
    · simp only [swapRemove, h, List.eraseP_cons_of_neg h]
      exact ih.cons field

/-- Removes a name with all its values; the last name takes its place. -/
def erase (fields : Fields) (name : Name) : Fields :=
  ⟨swapRemove (·.name == name) fields.entries, by
    have hp := (perm_of_swapRemove (·.name == name) fields.entries).map Field.name
    rw [hp.nodup_iff]
    exact fields.nodup.sublist (List.eraseP_sublist.map _)⟩

end Fields

end TextSocket.Header
