import Mathlib.Tactic.SplitIfs
import TextSocket.Settings.Table

/-!
# `Proofs.Settings.Table` — tables by look-up

Of equal keys the entry put in last counts (`get?_ofList`), and a table is nothing but its look-up: **two tables
with equal look-up are equal** (`ext_get?`), because key order leaves no choice of how to write one. So the entries
of a table make that table again (`ofList_entries`).

## Contents

* `get?_insert`, `mem_ofList`, `get?_ofList` — look-up in what has been put in;
* `mem_entries_iff`, `ext_get?` — entries by look-up, and tables with equal look-up;
* `ofList_entries` — the entries of a table make that table.
-/

namespace TextSocket.Table

/-! ## What has been put in -/

theorem lookup_cons_eq_ite (entry : String × String) (rest : List (String × String)) (key : String) :
    (entry :: rest).lookup key = if key = entry.1 then some entry.2 else rest.lookup key := by
  rw [List.lookup_cons]
  by_cases h : key = entry.1
  · simp [h]
  · rw [if_neg h, show (key == entry.1) = false by simpa using h]

theorem lookup_place {key value : String} (entries : List (String × String)) (other : String)
    (sorted : entries.Pairwise fun a b => a.1 < b.1) :
    (place key value entries).lookup other = if other = key then some value else entries.lookup other := by
  induction entries with
  | nil => exact lookup_cons_eq_ite (key, value) [] other
  | cons entry rest ih =>
    have hrest := ih (List.pairwise_cons.1 sorted).2
    rw [place]
    split
    case isTrue => exact lookup_cons_eq_ite (key, value) (entry :: rest) other
    case isFalse =>
      split
      case isTrue heq =>
        rw [lookup_cons_eq_ite, lookup_cons_eq_ite, heq]
        by_cases h : other = key <;> simp [h]
      case isFalse hne =>
        rw [lookup_cons_eq_ite, lookup_cons_eq_ite, hrest]
        by_cases h : other = entry.1
        · rw [if_pos h, if_neg (fun e => hne (h.symm.trans e)), if_pos h]
        · rw [if_neg h, if_neg h]

/-- Looking up what has been put in. -/
theorem get?_insert (table : Table) (key value other : String) :
    (table.insert key value).get? other = if other = key then some value else table.get? other :=
  lookup_place table.entries other table.sorted

/-- The texts that a list of entries has for a key, in order. -/
def texts (entries : List (String × String)) (key : String) : List String :=
  entries.filterMap fun e => if e.1 = key then some e.2 else none

theorem texts_cons (entry : String × String) (rest : List (String × String)) (key : String) :
    texts (entry :: rest) key = if entry.1 = key then entry.2 :: texts rest key else texts rest key := by
  rw [texts, List.filterMap_cons]
  split_ifs <;> rfl

theorem get?_foldl (entries : List (String × String)) (table : Table) (key : String) :
    (entries.foldl (fun table entry => table.insert entry.1 entry.2) table).get? key
      = (texts entries key).getLast?.or (table.get? key) := by
  induction entries generalizing table with
  | nil => rfl
  | cons entry rest ih =>
    rw [List.foldl_cons, ih, get?_insert, texts_cons]
    -- a later entry under the same key takes the place of this one
    by_cases h : entry.1 = key
    · rw [if_pos h.symm, if_pos h, List.getLast?_cons]
      cases (texts rest key).getLast? <;> rfl
    · rw [if_neg (Ne.symm h), if_neg h]

/-- **Of equal keys the last one counts.** -/
theorem get?_ofList (entries : List (String × String)) (key : String) :
    (ofList entries).get? key = (texts entries key).getLast? := by
  rw [ofList, get?_foldl]
  exact Option.or_none

theorem mem_foldl {entries : List (String × String)} {table : Table} {e : String × String}
    (h : e ∈ (entries.foldl (fun table entry => table.insert entry.1 entry.2) table).entries) :
    e ∈ entries ∨ e ∈ table.entries := by
  induction entries generalizing table with
  | nil => exact .inr h
  | cons entry rest ih =>
    rcases ih h with h | h
    · exact .inl (List.mem_cons_of_mem _ h)
    · rcases mem_place h with rfl | h
      · exact .inl List.mem_cons_self
      · exact .inr h

/-- A table made of entries has no others. -/
theorem mem_ofList {entries : List (String × String)} {e : String × String} (h : e ∈ (ofList entries).entries) :
    e ∈ entries :=
  (mem_foldl h).resolve_right (List.not_mem_nil)

/-! ## Tables with equal look-up -/

theorem lookup_eq_some_of_mem {entries : List (String × String)} {key value : String}
    (sorted : entries.Pairwise fun a b => a.1 < b.1) (h : (key, value) ∈ entries) :
    entries.lookup key = some value := by
  induction entries with
  | nil => cases h
  | cons entry rest ih =>
    obtain ⟨hhead, htail⟩ := List.pairwise_cons.1 sorted
    rw [lookup_cons_eq_ite]
    rcases List.mem_cons.1 h with rfl | h
    · exact if_pos rfl
    · have hne : key ≠ entry.1 := fun e => String.lt_irrefl _ (e ▸ hhead _ h)
      rw [if_neg hne, ih htail h]

/-- The entries of a table are what look-up finds. -/
theorem mem_entries_iff {table : Table} {key value : String} :
    (key, value) ∈ table.entries ↔ table.get? key = some value := by
  refine ⟨lookup_eq_some_of_mem table.sorted, fun h => ?_⟩
  obtain ⟨front, back, hentries, -⟩ := List.lookup_eq_some_iff.1 h
  rw [hentries]
  exact List.mem_append_right front List.mem_cons_self

/-- **Two tables with equal look-up are equal.** -/
theorem ext_get? {a b : Table} (h : ∀ key, a.get? key = b.get? key) : a = b := by
  have nodup (table : Table) : table.entries.Nodup :=
    table.sorted.imp fun {a b} (hlt : a.1 < b.1) (heq : a = b) => String.lt_irrefl b.1 (heq ▸ hlt)
  -- the entries are the same, and there is one order in which they can stand
  have perm : a.entries.Perm b.entries := by
    refine (List.perm_ext_iff_of_nodup (nodup a) (nodup b)).2 fun ⟨key, value⟩ => ?_
    rw [mem_entries_iff, mem_entries_iff, h]
  apply eq_of_entries
  exact perm.eq_of_pairwise (fun _ _ _ _ hab hba => absurd (String.lt_trans hab hba) (String.lt_irrefl _))
    a.sorted b.sorted

theorem texts_of_sorted {entries : List (String × String)} (sorted : entries.Pairwise fun a b => a.1 < b.1)
    (key : String) : texts entries key = (entries.lookup key).toList := by
  induction entries with
  | nil => rfl
  | cons entry rest ih =>
    obtain ⟨hhead, htail⟩ := List.pairwise_cons.1 sorted
    rw [texts_cons, lookup_cons_eq_ite, ih htail]
    by_cases h : entry.1 = key
    · -- the keys behind it are greater
      have absent : rest.lookup key = none := by
        rw [List.lookup_eq_none_iff]
        intro e he
        have : key < e.1 := h ▸ hhead e he
        simpa using fun heq : key = e.1 => String.lt_irrefl e.1 (heq ▸ this)
      rw [if_pos h, if_pos h.symm, absent]
      rfl
    · rw [if_neg h, if_neg (Ne.symm h)]

/-- **The entries of a table make that table.** -/
theorem ofList_entries (table : Table) : ofList table.entries = table := by
  refine ext_get? fun key => ?_
  rw [get?_ofList, texts_of_sorted table.sorted, get?]
  cases table.entries.lookup key <;> rfl

end TextSocket.Table
