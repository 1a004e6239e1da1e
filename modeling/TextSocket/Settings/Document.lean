import TextSocket.Json.Skip
import TextSocket.Json.Writer
import TextSocket.Settings.Basic

/-!
# `TextSocket.Settings.Document` — settings as a JSON document

The document is an object with one member for each setting; a list of the settings in order is read as well.
A member that is left out has its default, an unknown member is passed over, and a known member must not
stand twice. Equal keys among the headers are allowed, and the last one counts.

## Contents

* `Settings.Member` — the known members and their keys;
* `Settings.read` — the settings that a document holds;
* `Settings.write` — the document of settings.
-/

namespace TextSocket.Settings

/-! ## Members -/

/-- A member of the document. -/
inductive Member where
  /-- Time between heartbeats. -/
  | pingInterval
  /-- Time that a heartbeat waits. -/
  | pingTimeout
  /-- Deadline of a read. -/
  | receiveTimeout
  /-- Deadline of a write. -/
  | sendTimeout
  /-- Size of the buffers. -/
  | bufferSize
  /-- Headers of a dialled request. -/
  | headers
  deriving DecidableEq, Repr

namespace Member

/-- The members in their order. -/
def all : List Member :=
  [pingInterval, pingTimeout, receiveTimeout, sendTimeout, bufferSize, headers]

/-- The key of a member. -/
def key : Member → String
  | pingInterval => "pingIntervalMs"
  | pingTimeout => "pingTimeoutMs"
  | receiveTimeout => "receiveTimeoutMs"
  | sendTimeout => "sendTimeoutMs"
  | bufferSize => "bufferSize"
  | headers => "headers"

/-- The member with a key. -/
def ofKey? (key : String) : Option Member :=
  all.find? fun member => member.key == key

end Member

/-! ## Reading -/

/-- Reads the headers: an object of strings. -/
def readHeaders (s : List Char) : Except Json.Stuck (Table × List Char) :=
  let entry (table : Table) (key : String) (s : List Char) :
      Except Json.Stuck (Table × List Char) := do
    let rest ← Json.readColon s
    let (value, rest) ← Json.readText "a string" rest
    .ok (table.insert key value, rest)
  match Json.skipBlanks s with
  | [] => Json.stop .endInValue []
  | '\x7b' :: rest => Json.readObject entry Table.empty rest
  | s => Json.wrongType "a map" s

/-- Reads the value of a member into the settings. -/
def readMember (member : Member) (settings : Settings) (s : List Char) :
    Except Json.Stuck (Settings × List Char) :=
  match member with
  | .pingInterval => do
    let (n, rest) ← Json.readWord "u64" s
    .ok ({ settings with pingIntervalMs := n }, rest)
  | .pingTimeout => do
    let (n, rest) ← Json.readWord "u64" s
    .ok ({ settings with pingTimeoutMs := n }, rest)
  | .receiveTimeout => do
    let (n, rest) ← Json.readWord "u64" s
    .ok ({ settings with receiveTimeoutMs := n }, rest)
  | .sendTimeout => do
    let (n, rest) ← Json.readWord "u64" s
    .ok ({ settings with sendTimeoutMs := n }, rest)
  | .bufferSize => do
    let (n, rest) ← Json.readWord "usize" s
    .ok ({ settings with bufferSize := n }, rest)
  | .headers => do
    let (table, rest) ← readHeaders s
    .ok ({ settings with headers := table }, rest)

/-- Settings that are being read, and the members that have been seen. -/
structure Draft where
  /-- The settings so far. -/
  settings : Settings
  /-- The known members so far. -/
  seen : List Member

/-- The text at which a repeated member is reported: behind the white space after its key, and behind the
    brace if the object ends there. -/
def behindRepeated (s : List Char) : List Char :=
  match Json.skipBlanks s with
  | '\x7d' :: rest => rest
  | rest => rest

/-- Reads what stands behind a key of the document. -/
def readEntry (draft : Draft) (key : String) (s : List Char) :
    Except Json.Stuck (Draft × List Char) :=
  match Member.ofKey? key with
  | none => do
    let rest ← Json.readColon s
    let rest ← Json.skipValue rest
    .ok (draft, rest)
  | some member =>
    if member ∈ draft.seen then Json.stop (.duplicateField key) (behindRepeated s)
    else do
      let rest ← Json.readColon s
      let (settings, rest) ← readMember member draft.settings rest
      .ok (⟨settings, member :: draft.seen⟩, rest)

/-- Reads settings written as an object or as a list. -/
def readValue (s : List Char) : Except Json.Stuck (Settings × List Char) :=
  match Json.skipBlanks s with
  | [] => Json.stop .endInValue []
  | '\x7b' :: rest => do
    let (draft, rest) ← Json.readObject readEntry ⟨Settings.default, []⟩ rest
    .ok (draft.settings, rest)
  | '[' :: rest => Json.readElements (Member.all.map readMember) true Settings.default rest
  | s => Json.wrongType "struct TransportSettings" s

/-- The settings that a document holds. -/
def read (document : String) : Except Json.Error Settings :=
  Json.read readValue document

/-! ## Writing -/

/-- The written value of a member. -/
def writeMember (settings : Settings) : Member → List Char
  | .pingInterval => Json.writeWord settings.pingIntervalMs
  | .pingTimeout => Json.writeWord settings.pingTimeoutMs
  | .receiveTimeout => Json.writeWord settings.receiveTimeoutMs
  | .sendTimeout => Json.writeWord settings.sendTimeoutMs
  | .bufferSize => Json.writeWord settings.bufferSize
  | .headers =>
    Json.writeObject (settings.headers.entries.map fun e => (e.1, Json.writeChars e.2))

/-- The document of settings: all members in their order. -/
def write (settings : Settings) : String :=
  String.ofList (Json.writeObject (Member.all.map fun m => (m.key, writeMember settings m)))

end TextSocket.Settings
