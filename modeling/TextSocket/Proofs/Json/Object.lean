import TextSocket.Proofs.Json.Typed

/-!
# `Proofs.Json.Object` — objects in any spelling

An object is read member by member: its key, and then what the reader of its members makes of the rest. **It is enough
to know what that reader does with each member** (`Goes`): if it takes each of them and leaves what stands behind it, the
object is taken (`readObject_goes`); and a reader that takes members exactly or stops either goes through the object in
this way or stops (`goes_or_stops`).

## Contents

* `behind`, `inside_cons`, `skipBlanks_entry` — what stands behind a member, and in front of its key;
* `nextMember`, `readMembers_first_entry`, `readMembers_next_entry` — one member;
* `Goes`, `readObject_goes`, `goes_or_stops` — all members.
-/

namespace TextSocket.Json

/-- What stands behind a member: those that follow, the closing brace, and what stands behind the object. -/
def behind (entries : List Entry) (rest : List Char) : List Char :=
  (entries.map Entry.text).flatMap (',' :: ·) ++ '\x7d' :: rest

theorem behind_nil (rest : List Char) : behind [] rest = '\x7d' :: rest := rfl

theorem behind_cons (entry : Entry) (entries : List Entry) (rest : List Char) :
    behind (entry :: entries) rest = ',' :: (entry.text ++ behind entries rest) := by
  rw [behind, List.map_cons, List.flatMap_cons, List.cons_append, List.cons_append, List.append_assoc]
  rfl

theorem closed_behind (entries : List Entry) (rest : List Char) : Closed (behind entries rest) :=
  closed_inside (Or.inr rfl) _ _

theorem length_le_behind (entries : List Entry) (rest : List Char) : entries.length < (behind entries rest).length := by
  induction entries with
  | nil =>
    rw [behind_nil, List.length_cons]
    exact Nat.zero_lt_succ _
  | cons entry entries ih =>
    rw [behind_cons, List.length_cons, List.length_cons, List.length_append]
    omega

/-- Behind the opening brace of an object with members. -/
theorem inside_cons (gap : List Char) (entry : Entry) (entries : List Entry) (rest : List Char) :
    inside gap ((entry :: entries).map Entry.text) ++ '\x7d' :: rest = entry.text ++ behind entries rest := by
  rw [List.map_cons, inside, List.append_assoc]
  rfl

/-- Behind the white space in front of a member stands its key. -/
theorem skipBlanks_entry {entry : Entry} (hfront : IsGap entry.front) (rest : List Char) :
    skipBlanks (entry.text ++ rest) = '"' :: (entry.key ++ '"' :: (entry.tail ++ rest)) := by
  rw [Entry.text, List.append_assoc, skipBlanks_gap hfront, List.cons_append, skipBlanks_cons rfl, List.append_assoc,
    List.cons_append]

section members

variable {σ : Type} (member : σ → String → Reader σ)

/-! ## One member -/

/-- Reads a member behind the quote of its key, and those behind it. -/
def nextMember (fuel : Nat) (state : σ) (s : List Char) : Except Stuck (σ × List Char) :=
  readString s >>= fun read => member state read.1 read.2 >>= fun next => readMembers member fuel false next.1 next.2

/-- The first member. -/
theorem readMembers_first_entry {entry : Entry} (hfront : IsGap entry.front) (fuel : Nat) (state : σ) (rest : List Char) :
    readMembers member (fuel + 1) true state (entry.text ++ rest)
      = nextMember member fuel state (entry.key ++ '"' :: (entry.tail ++ rest)) := by
  rw [readMembers]
  simp only [skipBlanks_entry hfront, if_true]
  rfl

/-- A member behind a comma. -/
theorem readMembers_next_entry {gap : List Char} (hgap : IsGap gap) {entry : Entry} (hfront : IsGap entry.front)
    (fuel : Nat) (state : σ) (rest : List Char) :
    readMembers member (fuel + 1) false state (gap ++ ',' :: (entry.text ++ rest))
      = nextMember member fuel state (entry.key ++ '"' :: (entry.tail ++ rest)) := by
  have hcomma : skipBlanks (gap ++ ',' :: (entry.text ++ rest)) = ',' :: (entry.text ++ rest) := by
    rw [skipBlanks_gap hgap, skipBlanks_cons rfl]
  rw [readMembers]
  simp [hcomma, skipBlanks_entry hfront, nextMember]

/-- The closing brace. -/
theorem readMembers_brace {gap : List Char} (hgap : IsGap gap) (fuel : Nat) (first : Bool) (state : σ)
    (rest : List Char) : readMembers member (fuel + 1) first state (gap ++ '\x7d' :: rest) = .ok (state, rest) := by
  have hskip : skipBlanks (gap ++ '\x7d' :: rest) = '\x7d' :: rest := by
    rw [skipBlanks_gap hgap, skipBlanks_cons rfl]
  rw [readMembers]
  simp only [hskip]

/-! ## All members -/

/-- **The reader of members takes each of them** and leaves what stands behind it, from the first state to the second. -/
inductive Goes (rest : List Char) : σ → List Entry → σ → Prop where
  /-- No members. -/
  | nil (state : σ) : Goes rest state [] state
  /-- One member, whose key stands for a text, and those behind it. -/
  | cons {state next last : σ} {entry : Entry} {entries : List Entry} {text : List Char} (hkey : Spells entry.key text)
      (hmember : member state (String.ofList text) (entry.tail ++ behind entries rest)
        = .ok (next, entry.back ++ behind entries rest))
      (hrest : Goes rest next entries last) : Goes rest state (entry :: entries) last

variable {member}

/-- What a member that is taken comes to. -/
theorem nextMember_goes {fuel : Nat} {state next : σ} {entry : Entry} {text rest left : List Char}
    (hkey : Spells entry.key text) (hmember : member state (String.ofList text) (entry.tail ++ rest) = .ok (next, left)) :
    nextMember member fuel state (entry.key ++ '"' :: (entry.tail ++ rest)) = readMembers member fuel false next left := by
  rw [nextMember, readString_spells hkey]
  show (member state (String.ofList text) (entry.tail ++ rest) >>= _) = _
  rw [hmember]
  rfl

/-- Members that are taken one by one are taken together. -/
theorem readMembers_goes {rest : List Char} {state last : σ} {entries : List Entry}
    (h : Goes member rest state entries last) (hspaced : ∀ entry ∈ entries, entry.IsSpaced) {gap : List Char}
    (hgap : IsGap gap) {fuel : Nat} (enough : entries.length < fuel) :
    readMembers member fuel false state (gap ++ behind entries rest) = .ok (last, rest) := by
  induction h generalizing gap fuel with
  | nil state =>
    obtain ⟨fuel, rfl⟩ : ∃ n, fuel = n + 1 := ⟨fuel - 1, by simp at enough; omega⟩
    exact readMembers_brace member hgap fuel false state rest
  | @cons state next last entry entries text hkey hmember _ ih =>
    obtain ⟨fuel, rfl⟩ : ∃ n, fuel = n + 1 := ⟨fuel - 1, by simp at enough; omega⟩
    obtain ⟨hentry, hentries⟩ := List.forall_mem_cons.mp hspaced
    rw [behind_cons, readMembers_next_entry member hgap hentry.front, nextMember_goes hkey hmember]
    exact ih hentries hentry.back (by simpa using enough)

/-- **An object is taken if its members are.** -/
theorem readObject_goes {rest : List Char} {start last : σ} {entries : List Entry}
    (h : Goes member rest start entries last) (hspaced : ∀ entry ∈ entries, entry.IsSpaced) {gap : List Char}
    (hgap : IsGap gap) :
    readObject member start (inside gap (entries.map Entry.text) ++ '\x7d' :: rest) = .ok (last, rest) := by
  cases h with
  | nil => exact readMembers_brace member hgap _ true start rest
  | @cons _ next _ entry entries text hkey hmember hrest =>
    obtain ⟨hentry, hentries⟩ := List.forall_mem_cons.mp hspaced
    have enough : entries.length < (entry.text ++ behind entries rest).length := by
      have hlength := length_le_behind entries rest
      rw [List.length_append]
      omega
    rw [inside_cons, readObject, readMembers_first_entry member hentry.front, nextMember_goes hkey hmember]
    exact readMembers_goes hrest hentries hentry.back enough

/-- A reader of members that stops, or takes the members of an object exactly. -/
def TakesExactly (member : σ → String → Reader σ) (entries : List Entry) : Prop :=
  ∀ entry ∈ entries, ∀ state text rest, Closed rest →
    Exact (entry.back ++ rest) (member state text (entry.tail ++ rest))

/-- What a member comes to with a reader that takes it exactly or stops. -/
theorem goes_or_stops_next {rest : List Char} {entry : Entry} {entries : List Entry} (hkey : IsBody entry.key)
    (hexact : TakesExactly member (entry :: entries)) (fuel : Nat) (state : σ)
    (ih : ∀ next, (∃ last, Goes member rest next entries last) ∨
      Stops (readMembers member fuel false next (entry.back ++ behind entries rest))) :
    (∃ last, Goes member rest state (entry :: entries) last) ∨
      Stops (nextMember member fuel state (entry.key ++ '"' :: (entry.tail ++ behind entries rest))) := by
  rcases readString_body hkey with ⟨text, htext⟩ | hstops
  · rcases hexact entry List.mem_cons_self state (String.ofList text) _ (closed_behind entries rest) with
      hstops | ⟨next, hmember⟩
    · right
      rw [nextMember, readString_spells htext]
      exact hstops.bind _
    · rcases ih next with ⟨last, hlast⟩ | hstops
      · exact Or.inl ⟨last, .cons htext hmember hlast⟩
      · right
        rw [nextMember_goes htext hmember]
        exact hstops
  · right
    exact (hstops _).bind _

/-- A reader that takes members exactly or stops goes through them, or stops. -/
theorem goes_or_stops_members {rest : List Char} {entries : List Entry} (hspaced : ∀ entry ∈ entries, entry.IsSpaced)
    (hkeys : ∀ entry ∈ entries, IsBody entry.key) (hexact : TakesExactly member entries) {gap : List Char}
    (hgap : IsGap gap) (fuel : Nat) (state : σ) :
    (∃ last, Goes member rest state entries last) ∨
      Stops (readMembers member fuel false state (gap ++ behind entries rest)) := by
  induction entries generalizing gap fuel state with
  | nil => exact Or.inl ⟨state, .nil state⟩
  | cons entry entries ih =>
    obtain ⟨hentry, hentries⟩ := List.forall_mem_cons.mp hspaced
    obtain ⟨hkey, hkeys⟩ := List.forall_mem_cons.mp hkeys
    cases fuel with
    | zero => exact Or.inr ⟨_, rfl⟩
    | succ fuel =>
      rw [behind_cons, readMembers_next_entry member hgap hentry.front]
      apply goes_or_stops_next hkey hexact
      intro next
      exact ih hentries hkeys (fun other hother => hexact other (List.mem_cons_of_mem _ hother)) hentry.back fuel next

/-- **An object is gone through member by member, or stops its reader.** -/
theorem goes_or_stops {rest : List Char} {entries : List Entry} (hspaced : ∀ entry ∈ entries, entry.IsSpaced)
    (hkeys : ∀ entry ∈ entries, IsBody entry.key) (hexact : TakesExactly member entries) (gap : List Char) (start : σ) :
    (∃ last, Goes member rest start entries last) ∨
      Stops (readObject member start (inside gap (entries.map Entry.text) ++ '\x7d' :: rest)) := by
  cases entries with
  | nil => exact Or.inl ⟨start, .nil start⟩
  | cons entry entries =>
    obtain ⟨hentry, hentries⟩ := List.forall_mem_cons.mp hspaced
    obtain ⟨hkey, hkeys⟩ := List.forall_mem_cons.mp hkeys
    rw [inside_cons, readObject, readMembers_first_entry member hentry.front]
    apply goes_or_stops_next hkey hexact
    intro next
    exact goes_or_stops_members hentries hkeys (fun other hother => hexact other (List.mem_cons_of_mem _ hother))
      hentry.back _ next

end members

end TextSocket.Json
