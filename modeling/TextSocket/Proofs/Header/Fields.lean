import Mathlib.Tactic.ByContra
import Mathlib.Tactic.SplitIfs
import TextSocket.Header.Fields

/-!
# `Proofs.Header.Fields` — header fields by name

What a name is looked up for is its values, and each operation on the fields says what becomes of the values of
every name: setting and adding touch one name (`values_insert`, `values_append`), erasing empties one
(`values_erase`), overriding replaces those that have new values (`values_override`). In a list of pairs, and in the
order of iteration, the values of a name are the values that stand beside it (`values_ofList`, `valuesIn_toList`). The
names of a list of pairs stand in the order in which each of them came first (`names_ofList`).

## Contents

* `valuesAt` — look-up in a list of fields, with `valuesAt_alter`;
* `values_insert`, `values_append`, `values_override`, `values_erase` — the operations;
* `valuesIn`, `values_ofList`, `names_ofList`, `valuesIn_toList` — pairs.
-/

namespace TextSocket.Header.Fields

/-! ## Lists of fields -/

/-- The values that a list of fields has for a name. -/
def valuesAt (entries : List Field) (name : Name) : List Value :=
  match entries.find? (·.name == name) with
  | some field => field.values
  | none => []

theorem values_eq (fields : Fields) (name : Name) : fields.values name = valuesAt fields.entries name := rfl

theorem valuesAt_cons (field : Field) (rest : List Field) (name : Name) :
    valuesAt (field :: rest) name = if field.name = name then field.values else valuesAt rest name := by
  by_cases h : field.name = name
  · simp [valuesAt, h]
  · simp [valuesAt, h]

theorem valuesAt_of_not_mem {entries : List Field} {name : Name} (h : name ∉ entries.map Field.name) :
    valuesAt entries name = [] := by
  induction entries with
  | nil => rfl
  | cons field rest ih =>
    rw [List.map_cons, List.mem_cons, not_or] at h
    rw [valuesAt_cons, if_neg (Ne.symm h.1), ih h.2]

theorem valuesAt_of_mem {entries : List Field} (nodup : (entries.map Field.name).Nodup) {field : Field}
    (h : field ∈ entries) : valuesAt entries field.name = field.values := by
  induction entries with
  | nil => cases h
  | cons other rest ih =>
    rw [List.map_cons, List.nodup_cons] at nodup
    rw [valuesAt_cons]
    rcases List.mem_cons.1 h with rfl | h
    · exact if_pos rfl
    · have hne : other.name ≠ field.name := by
        intro e
        exact nodup.1 (e ▸ List.mem_map_of_mem h)
      rw [if_neg hne, ih nodup.2 h]

/-- **A field stands in a list exactly if look-up finds its values.** -/
theorem mem_iff_valuesAt {entries : List Field} (nodup : (entries.map Field.name).Nodup) {field : Field} :
    field ∈ entries ↔ valuesAt entries field.name = field.values := by
  constructor
  · exact valuesAt_of_mem nodup
  · intro h
    have hmem : field.name ∈ entries.map Field.name := by
      by_contra hnone
      rw [valuesAt_of_not_mem hnone] at h
      cases h
    obtain ⟨other, hother, hname⟩ := List.mem_map.1 hmem
    rw [← hname, valuesAt_of_mem nodup hother] at h
    have hsame : other = field := by
      obtain ⟨name, first, more⟩ := other
      obtain ⟨name', first', more'⟩ := field
      cases hname
      cases h
      rfl
    exact hsame ▸ hother

/-- Look-up does not depend on the order of the fields. -/
theorem valuesAt_perm {entries others : List Field} (nodup : (entries.map Field.name).Nodup)
    (perm : entries.Perm others) (name : Name) : valuesAt entries name = valuesAt others name := by
  have nodup' : (others.map Field.name).Nodup := (perm.map Field.name).nodup_iff.1 nodup
  by_cases h : name ∈ entries.map Field.name
  · obtain ⟨field, hfield, rfl⟩ := List.mem_map.1 h
    rw [valuesAt_of_mem nodup hfield, valuesAt_of_mem nodup' (perm.mem_iff.1 hfield)]
  · have h' : name ∉ others.map Field.name := fun h' => h ((perm.map Field.name).mem_iff.2 h')
    rw [valuesAt_of_not_mem h, valuesAt_of_not_mem h']

/-- **A change acts on the values of one name**: by `f`, if it changes the values of a field by `f` and the field
    that is added otherwise has what `f` makes of no values. -/
theorem valuesAt_alter {change : Field → Field} {new : Field} {f : List Value → List Value}
    (hchange : ∀ field, (change field).values = f field.values) (hnew : new.values = f [])
    (entries : List Field) (name : Name) :
    valuesAt (alter change new entries) name
      = if new.name = name then f (valuesAt entries name) else valuesAt entries name := by
  induction entries with
  | nil =>
    rw [alter, valuesAt_cons, hnew]
    rfl
  | cons field rest ih =>
    have renamed : ({ change field with name := field.name } : Field).values = f field.values := hchange field
    rw [alter, valuesAt_cons]
    split
    case isTrue h =>
      rw [valuesAt_cons, renamed, ← h]
      split_ifs <;> rfl
    case isFalse h =>
      rw [valuesAt_cons, ih]
      by_cases hfield : field.name = name
      · rw [if_pos hfield, if_pos hfield, if_neg (fun e => h (hfield.trans e.symm))]
      · rw [if_neg hfield, if_neg hfield]

/-! ## The operations -/

variable (fields : Fields) (name other : Name) (value : Value)

theorem values_empty : empty.values name = [] := rfl

/-- Setting gives one name one value. -/
theorem values_insert :
    (fields.insert name value).values other = if name = other then [value] else fields.values other :=
  valuesAt_alter (f := fun _ => [value]) (fun _ => rfl) rfl fields.entries other

/-- Adding puts a value behind those of one name. -/
theorem values_append :
    (fields.append name value).values other
      = if name = other then fields.values other ++ [value] else fields.values other :=
  valuesAt_alter (f := fun values => values ++ [value]) (fun _ => by simp [Field.values]) rfl fields.entries other

theorem valuesAt_eraseP {entries : List Field} (nodup : (entries.map Field.name).Nodup) :
    valuesAt (entries.eraseP (·.name == name)) other = if name = other then [] else valuesAt entries other := by
  induction entries with
  | nil => simp [valuesAt]
  | cons field rest ih =>
    rw [List.map_cons, List.nodup_cons] at nodup
    by_cases h : field.name = name
    · rw [List.eraseP_cons_of_pos (by simpa using h), valuesAt_cons, h]
      by_cases hother : name = other
      · rw [if_pos hother, valuesAt_of_not_mem (hother ▸ h ▸ nodup.1)]
      · rw [if_neg hother, if_neg hother]
    · rw [List.eraseP_cons_of_neg (by simpa using h), valuesAt_cons, valuesAt_cons, ih nodup.2]
      by_cases hother : field.name = other
      · rw [if_pos hother, if_pos hother, if_neg (fun e => h (hother.trans e.symm))]
      · rw [if_neg hother, if_neg hother]

/-- Erasing takes all values of one name. -/
theorem values_erase :
    (fields.erase name).values other = if name = other then [] else fields.values other := by
  have perm := perm_of_swapRemove (·.name == name) fields.entries
  rw [values_eq, valuesAt_perm (fields.erase name).nodup perm, valuesAt_eraseP name other fields.nodup]
  rfl

theorem values_foldl_override (news : List Field) (nodup : (news.map Field.name).Nodup) :
    (news.foldl (fun fields field => (⟨alter (fun _ => field) field fields.entries, nodup_alter fields.nodup⟩ : Fields))
        fields).values name
      = if name ∈ news.map Field.name then valuesAt news name else fields.values name := by
  induction news generalizing fields with
  | nil => rfl
  | cons field rest ih =>
    rw [List.map_cons, List.nodup_cons] at nodup
    have altered : valuesAt (alter (fun _ => field) field fields.entries) name
        = if field.name = name then field.values else valuesAt fields.entries name :=
      valuesAt_alter (f := fun _ => field.values) (fun _ => rfl) rfl fields.entries name
    rw [List.foldl_cons, ih _ nodup.2, values_eq, altered, valuesAt_cons, List.map_cons]
    by_cases h : field.name = name
    · rw [if_neg (h ▸ nodup.1), if_pos h, if_pos (by simp [h]), if_pos h]
    · simp only [List.mem_cons, Ne.symm h, false_or, if_neg h]
      rfl

/-- Overriding gives a name its new values if there are any. -/
theorem values_override (news : Fields) :
    (fields.override news).values name
      = if news.values name = [] then fields.values name else news.values name := by
  rw [override, values_foldl_override fields name news.entries news.nodup, values_eq news]
  by_cases h : name ∈ news.entries.map Field.name
  · obtain ⟨field, hfield, rfl⟩ := List.mem_map.1 h
    have some : valuesAt news.entries field.name ≠ [] := by
      rw [valuesAt_of_mem news.nodup hfield]
      exact List.cons_ne_nil _ _
    rw [if_pos h, if_neg some]
  · rw [if_neg h, if_pos (valuesAt_of_not_mem h)]

/-- The first value of a name is its first new value, if there is one. -/
theorem get?_override (news : Fields) :
    (fields.override news).get? name = (news.get? name).or (fields.get? name) := by
  rw [get?, values_override, get?, get?]
  cases news.values name with
  | nil => rfl
  | cons value values => rfl

/-! ## Pairs -/

/-- The values that stand beside a name. -/
def valuesIn (pairs : List (Name × Value)) (name : Name) : List Value :=
  pairs.filterMap fun pair => if pair.1 = name then some pair.2 else none

theorem valuesIn_cons (pair : Name × Value) (pairs : List (Name × Value)) :
    valuesIn (pair :: pairs) name
      = if pair.1 = name then pair.2 :: valuesIn pairs name else valuesIn pairs name := by
  rw [valuesIn, List.filterMap_cons]
  split_ifs <;> rfl

theorem valuesIn_append (pairs more : List (Name × Value)) :
    valuesIn (pairs ++ more) name = valuesIn pairs name ++ valuesIn more name :=
  List.filterMap_append

theorem values_foldl_append (pairs : List (Name × Value)) :
    (pairs.foldl (fun fields pair => fields.append pair.1 pair.2) fields).values name
      = fields.values name ++ valuesIn pairs name := by
  induction pairs generalizing fields with
  | nil => exact (List.append_nil _).symm
  | cons pair pairs ih =>
    rw [List.foldl_cons, ih, values_append, valuesIn_cons]
    split_ifs <;> simp

/-- **Adding pairs one after another keeps the values of each name in order.** -/
theorem values_ofList (pairs : List (Name × Value)) : (ofList pairs).values name = valuesIn pairs name := by
  rw [ofList, values_foldl_append, values_empty, List.nil_append]

theorem eraseDups_of_nodup {α : Type} [BEq α] [LawfulBEq α] {l : List α} (h : l.Nodup) : l.eraseDups = l := by
  induction l with
  | nil => rfl
  | cons a l ih =>
    rw [List.nodup_cons] at h
    have kept : l.filter (fun b => !b == a) = l := by
      apply List.filter_eq_self.mpr
      intro b hb
      have hne : b ≠ a := fun e => h.1 (e ▸ hb)
      simp [hne]
    rw [List.eraseDups_cons, kept, ih h.2]

theorem names_foldl_append (pairs : List (Name × Value)) :
    (pairs.foldl (fun fields pair => fields.append pair.1 pair.2) fields).entries.map Field.name
      = (fields.entries.map Field.name ++ pairs.map Prod.fst).eraseDups := by
  induction pairs generalizing fields with
  | nil =>
    rw [List.map_nil, List.append_nil, eraseDups_of_nodup fields.nodup]
    rfl
  | cons pair pairs ih =>
    have appended : (fields.append pair.1 pair.2).entries.map Field.name
        = if pair.1 ∈ fields.entries.map Field.name then fields.entries.map Field.name
          else fields.entries.map Field.name ++ [pair.1] := map_name_alter _ _ _
    rw [List.foldl_cons, ih, appended, List.map_cons]
    split
    · next hmem =>
      -- a name that is there already keeps its place
      rw [List.eraseDups_append, List.eraseDups_append, List.removeAll, List.removeAll, List.filter_cons_of_neg]
      simpa using hmem
    · rw [List.append_assoc, List.singleton_append]

/-- **Adding pairs one after another keeps the names in the order in which each of them came first.** -/
theorem names_ofList (pairs : List (Name × Value)) :
    (ofList pairs).entries.map Field.name = (pairs.map Prod.fst).eraseDups :=
  names_foldl_append empty pairs

/-- Setting pairs one after another leaves the last value of each name. -/
theorem values_foldl_insert (pairs : List (Name × Value)) :
    (pairs.foldl (fun fields pair => fields.insert pair.1 pair.2) fields).values name
      = ((valuesIn pairs name).getLast?.map fun value => [value]).getD (fields.values name) := by
  induction pairs generalizing fields with
  | nil => rfl
  | cons pair pairs ih =>
    rw [List.foldl_cons, ih, values_insert, valuesIn_cons]
    by_cases h : pair.1 = name
    · rw [if_pos h, if_pos h, List.getLast?_cons]
      cases (valuesIn pairs name).getLast? <;> rfl
    · rw [if_neg h, if_neg h]

theorem valuesIn_field (field : Field) :
    valuesIn (field.values.map fun value => (field.name, value)) name
      = if field.name = name then field.values else [] := by
  unfold valuesIn
  rw [List.filterMap_map]
  show field.values.filterMap (fun value => if field.name = name then some value else none) = _
  by_cases h : field.name = name
  · simp [h]
  · simp [h]

/-- **In the order of iteration the values of a name keep their order.** -/
theorem valuesIn_toList : valuesIn fields.toList name = fields.values name := by
  obtain ⟨entries, nodup⟩ := fields
  show valuesIn (entries.flatMap _) name = valuesAt entries name
  induction entries with
  | nil => rfl
  | cons field rest ih =>
    rw [List.map_cons, List.nodup_cons] at nodup
    rw [List.flatMap_cons, valuesIn_append, valuesIn_field, ih nodup.2, valuesAt_cons]
    by_cases h : field.name = name
    · rw [if_pos h, if_pos h, valuesAt_of_not_mem (h ▸ nodup.1), List.append_nil]
    · rw [if_neg h, if_neg h, List.nil_append]

/-- A pair stands in a list as often as its value stands beside its name. -/
theorem count_valuesIn (pairs : List (Name × Value)) :
    (valuesIn pairs name).count value = pairs.count (name, value) := by
  induction pairs with
  | nil => rfl
  | cons pair pairs ih =>
    rw [valuesIn_cons, List.count_cons, ← ih]
    by_cases hname : pair.1 = name
    · rw [if_pos hname, List.count_cons]
      congr 2
      simp [Prod.ext_iff, hname]
    · have hne : pair ≠ (name, value) := by
        rintro rfl
        exact hname rfl
      simp [hname, hne]

end TextSocket.Header.Fields
