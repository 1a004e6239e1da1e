import TextSocket.Json.Reader
import TextSocket.Json.Writer
import TextSocket.Uuid

/-!
# `TextSocket.ConnectionId` — identifiers of connections

Every connection has an identifier of its own, so that what is said about a connection can be told apart from
what is said about others. In a JSON document the identifier is a string.

## Contents

* `ConnectionId` with `ConnectionId.text` and `ConnectionId.random`;
* `ConnectionId.read`, `ConnectionId.write` — from and to JSON.
-/

namespace TextSocket

/-- The identifier of a connection. -/
structure ConnectionId where
  /-- The identifier proper. -/
  uuid : Uuid
  deriving DecidableEq

namespace ConnectionId

/-- An identifier made of random bytes. -/
def random (entropy : Nat) : ConnectionId := ⟨.random entropy⟩

/-- The written form. -/
def text (id : ConnectionId) : String := id.uuid.text

/-- Reads an identifier: a string in one of the forms of a UUID. -/
def readValue (s : List Char) : Except Json.Stuck (ConnectionId × List Char) := do
  let (text, rest) ← Json.readText "a formatted UUID string" s
  match Uuid.parse text with
  | .ok uuid => .ok (⟨uuid⟩, rest)
  | .error fault => Json.stop (.refused ("UUID parsing failed: " ++ fault.message)) rest

/-- The identifier that a JSON document holds. -/
def read (document : String) : Except Json.Error ConnectionId :=
  Json.read readValue document

/-- The JSON document of an identifier. -/
def write (id : ConnectionId) : String := Json.writeText id.text

/-- The identifier as it appears in a description of its owner. -/
def describe (id : ConnectionId) : String := "ConnectionId(" ++ id.text ++ ")"

end ConnectionId

end TextSocket
