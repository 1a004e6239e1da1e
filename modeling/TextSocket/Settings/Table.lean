/-!
# `TextSocket.Settings.Table` — text tables in key order

A table assigns texts to keys. Its entries stand in strictly increasing order of their keys, by code point, so
equal tables have equal entries and a table is written in one way only.

## Contents

* `Table` — entries with the proof of their order;
* `Table.insert`, `Table.ofList` — of equal keys the last one counts;
* `Table.get?` — look-up.
-/

namespace TextSocket

/-- A table of texts in key order. -/
structure Table where
  /-- The entries. -/
  entries : List (String × String)
  /-- Keys increase strictly. -/
  sorted : entries.Pairwise fun a b => a.1 < b.1
  deriving DecidableEq

namespace Table

/-- The table without entries. -/
def empty : Table := ⟨[], .nil⟩

instance : Inhabited Table := ⟨empty⟩

theorem eq_of_entries {a b : Table} (h : a.entries = b.entries) : a = b := by
  cases a; cases b; cases h; rfl

/-- Puts an entry into its place among sorted entries, instead of an entry with the same key. -/
def place (key value : String) : List (String × String) → List (String × String)
  | [] => [(key, value)]
  | entry :: rest =>
    if key < entry.1 then (key, value) :: entry :: rest
    else if entry.1 = key then (key, value) :: rest
    else entry :: place key value rest

theorem mem_place {key value : String} {entries : List (String × String)} {e : String × String}
    (h : e ∈ place key value entries) : e = (key, value) ∨ e ∈ entries := by
  induction entries with
  | nil => simpa [place] using h
  | cons entry rest ih =>
    simp only [place] at h
    split at h
    · simpa using h
    · split at h
      · rcases List.mem_cons.1 h with rfl | h
        · exact .inl rfl
        · exact .inr (List.mem_cons_of_mem _ h)
      · rcases List.mem_cons.1 h with rfl | h
        · exact .inr List.mem_cons_self
        · exact (ih h).imp_right (List.mem_cons_of_mem _)

theorem sorted_place {key value : String} {entries : List (String × String)}
    (h : entries.Pairwise fun a b => a.1 < b.1) :
    (place key value entries).Pairwise fun a b => a.1 < b.1 := by
  induction entries with
  | nil => simp [place]
  | cons entry rest ih =>
    obtain ⟨hhead, htail⟩ := List.pairwise_cons.1 h
    simp only [place]
    split
    · rename_i hlt
      refine List.pairwise_cons.2 ⟨?_, h⟩
      intro e he
      rcases List.mem_cons.1 he with rfl | he
      · exact hlt
      · exact String.lt_trans hlt (hhead e he)
    · rename_i hnlt
      split
      · rename_i heq
        refine List.pairwise_cons.2 ⟨?_, htail⟩
        intro e he
        exact heq ▸ hhead e he
      · rename_i hne
        refine List.pairwise_cons.2 ⟨?_, ih htail⟩
        intro e he
        rcases mem_place he with rfl | he
        · rcases Std.lt_trichotomy entry.1 key with hlt | heq | hgt
          · exact hlt
          · exact absurd heq hne
          · exact absurd hgt hnlt
        · exact hhead e he

/-- Sets the text of a key. -/
def insert (table : Table) (key value : String) : Table :=
  ⟨place key value table.entries, sorted_place table.sorted⟩

/-- The table of a list of entries, of which the last one of equal keys counts. -/
def ofList (entries : List (String × String)) : Table :=
  entries.foldl (fun table entry => table.insert entry.1 entry.2) empty

/-- The text of a key. -/
def get? (table : Table) (key : String) : Option String :=
  table.entries.lookup key

end Table

end TextSocket
