import TextSocket.Proofs.Json.RoundTrip
import TextSocket.Proofs.Settings.Table
import TextSocket.Settings.Document

/-!
# `Proofs.Settings.RoundTrip` — a document of settings holds those settings

The document names every member once, so reading it overwrites every default: **reading what has been written gives
the settings back** (`read_write`), whatever numbers and texts they hold.

## Contents

* `readHeaders_writeObject` — the headers;
* `Member.copy`, `readEntry_writeMember` — one member;
* `reads_members`, `read_write` — the document.
-/

namespace TextSocket.Settings

/-! ## Headers -/

theorem readColon_cons (s : List Char) : Json.readColon (':' :: s) = .ok s := by
  simp [Json.readColon, Json.skipBlanks_cons (show Json.isBlank ':' = false from rfl)]

theorem writeObject_append (members : List (String × List Char)) (rest : List Char) :
    Json.writeObject members ++ rest = '\x7b' :: (Json.writeMembers members ++ '\x7d' :: rest) := by
  simp [Json.writeObject]

/-- A reader that puts a written text under its key takes the entries of a table in turn. -/
theorem reads_entries {entry : Table → String → Json.Reader Table}
    (hentry : ∀ table key text rest,
      entry table key (':' :: Json.writeChars text ++ rest) = .ok (table.insert key text, rest))
    (entries : List (String × String)) (start : Table) :
    Json.Reads entry start (entries.map fun e => (e.1, Json.writeChars e.2))
      (entries.foldl (fun table e => table.insert e.1 e.2) start) := by
  induction entries generalizing start with
  | nil => exact .nil start
  | cons e entries ih => exact .cons (fun rest _ => hentry start e.1 e.2 rest) (ih _)

/-- **The headers are read back.** -/
theorem readHeaders_writeObject (table : Table) (rest : List Char) :
    readHeaders (Json.writeObject (table.entries.map fun e => (e.1, Json.writeChars e.2)) ++ rest)
      = .ok (table, rest) := by
  have whole : table.entries.foldl (fun table e => table.insert e.1 e.2) Table.empty = table :=
    Table.ofList_entries table
  rw [writeObject_append, readHeaders, Json.skipBlanks_cons rfl]
  refine (Json.readObject_writeMembers (reads_entries ?_ table.entries Table.empty) rest).trans (by rw [whole])
  intro table key text rest
  simp only [List.cons_append, readColon_cons, Json.readText_writeChars, bind, Except.bind]

/-! ## Members -/

/-- The settings `into` with one member of the settings `source`. -/
def Member.copy (source into : Settings) : Member → Settings
  | pingInterval => { into with pingIntervalMs := source.pingIntervalMs }
  | pingTimeout => { into with pingTimeoutMs := source.pingTimeoutMs }
  | receiveTimeout => { into with receiveTimeoutMs := source.receiveTimeoutMs }
  | sendTimeout => { into with sendTimeoutMs := source.sendTimeoutMs }
  | bufferSize => { into with bufferSize := source.bufferSize }
  | headers => { into with headers := source.headers }

theorem Member.ofKey?_key (member : Member) : Member.ofKey? member.key = some member := by
  cases member <;> rfl

variable (settings : Settings)

/-- The value of a member is read back. -/
theorem readMember_writeMember (member : Member) (into : Settings) {rest : List Char} (hrest : Json.Closed rest) :
    readMember member into (writeMember settings member ++ rest) = .ok (member.copy settings into, rest) := by
  cases member with
  | headers =>
    simp only [readMember, writeMember, readHeaders_writeObject, bind, Except.bind, Member.copy]
  | _ =>
    simp only [readMember, writeMember, Json.readWord_writeWord _ _ hrest, bind, Except.bind, Member.copy]

/-- A member that has not been seen is taken. -/
theorem readEntry_writeMember {member : Member} {draft : Draft} (unseen : member ∉ draft.seen) {rest : List Char}
    (hrest : Json.Closed rest) :
    readEntry draft member.key (':' :: writeMember settings member ++ rest)
      = .ok (⟨member.copy settings draft.settings, member :: draft.seen⟩, rest) := by
  simp only [readEntry, Member.ofKey?_key, if_neg unseen, List.cons_append, readColon_cons,
    readMember_writeMember settings member draft.settings hrest, bind, Except.bind]

/-! ## The document -/

/-- Members without repetition are taken one after another. -/
theorem reads_members {members : List Member} (nodup : members.Nodup) {draft : Draft}
    (unseen : ∀ m ∈ members, m ∉ draft.seen) :
    Json.Reads readEntry draft (members.map fun m => (m.key, writeMember settings m))
      (members.foldl (fun draft m => ⟨m.copy settings draft.settings, m :: draft.seen⟩) draft) := by
  induction members generalizing draft with
  | nil => exact .nil draft
  | cons m members ih =>
    obtain ⟨hm, hmembers⟩ := List.nodup_cons.1 nodup
    refine .cons (fun rest hrest => readEntry_writeMember settings (unseen m List.mem_cons_self) hrest) ?_
    apply ih hmembers
    intro other hother hseen
    rcases List.mem_cons.1 hseen with rfl | hseen
    · exact hm hother
    · exact unseen other (List.mem_cons_of_mem _ hother) hseen

/-- **Reading what has been written gives the settings back.** -/
theorem read_write : read settings.write = .ok settings := by
  have unseen : ∀ m ∈ Member.all, m ∉ (Draft.mk Settings.default []).seen := by simp
  have reads := Json.readObject_writeMembers (reads_members settings (by decide) unseen) []
  have value : readValue settings.write.toList = .ok (settings, []) := by
    have shape := writeObject_append (Member.all.map fun m => (m.key, writeMember settings m)) []
    rw [List.append_nil] at shape
    rw [write, String.toList_ofList, shape, readValue, Json.skipBlanks_cons rfl]
    simp only [reads, bind, Except.bind]
    rfl
  simp only [read, Json.read, value, bind, Except.bind]
  rfl

end TextSocket.Settings
