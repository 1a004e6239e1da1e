import TextSocket.Ascii

/-!
# `TextSocket.Header.Name` — header names

A header name is a token of at most 65535 bytes, and names are compared without regard to case. A `Name`
holds the small-letter form, so that equality of names is plain equality.

## Contents

* `Header.Name` — a name in small letters, with the proof that it is one;
* `Name.ofBytes?` — the name that a spelling in any case stands for;
* the names that the opening handshake uses.
-/

namespace TextSocket.Header

/-- A byte of a name in small letters. -/
def isNameByte (b : UInt8) : Bool := Ascii.isToken b && !Ascii.isUpper b

/-- A header name, in small letters. -/
structure Name where
  /-- The name's bytes. -/
  bytes : Bytes
  /-- A name is a nonempty token without capitals, of at most 65535 bytes. -/
  valid : (bytes ≠ [] ∧ bytes.length ≤ 65535) ∧ bytes.all isNameByte = true
  deriving DecidableEq

namespace Name

instance : Repr Name where
  reprPrec name _ := repr name.bytes.latin1

/-- The name that a spelling in any case stands for, if it is a token of admissible length. -/
def ofBytes? (spelling : Bytes) : Option Name :=
  if h : (spelling.map Ascii.lower ≠ [] ∧ (spelling.map Ascii.lower).length ≤ 65535) ∧
      (spelling.map Ascii.lower).all isNameByte = true then
    some ⟨spelling.map Ascii.lower, h⟩
  else
    none

/-- The name as a text. -/
def text (name : Name) : String := name.bytes.latin1

theorem eq_of_bytes {a b : Name} (h : a.bytes = b.bytes) : a = b := by
  cases a; cases b; cases h; rfl

/-! ## Names of the opening handshake -/

/-- `host` -/
def host : Name := ⟨Bytes.ofText "host", by decide⟩

/-- `connection` -/
def connection : Name := ⟨Bytes.ofText "connection", by decide⟩

/-- `upgrade` -/
def upgrade : Name := ⟨Bytes.ofText "upgrade", by decide⟩

/-- `origin` -/
def origin : Name := ⟨Bytes.ofText "origin", by decide⟩

/-- `content-length` -/
def contentLength : Name := ⟨Bytes.ofText "content-length", by decide⟩

/-- `sec-websocket-version` -/
def socketVersion : Name := ⟨Bytes.ofText "sec-websocket-version", by decide⟩

/-- `sec-websocket-key` -/
def socketKey : Name := ⟨Bytes.ofText "sec-websocket-key", by decide⟩

/-- `sec-websocket-accept` -/
def socketAccept : Name := ⟨Bytes.ofText "sec-websocket-accept", by decide⟩

/-- `sec-websocket-protocol` -/
def socketProtocol : Name := ⟨Bytes.ofText "sec-websocket-protocol", by decide⟩

end Name

end TextSocket.Header
