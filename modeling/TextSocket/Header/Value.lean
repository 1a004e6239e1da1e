import TextSocket.Ascii

/-!
# `TextSocket.Header.Value` — header values

A header value is a line of bytes: no control character but the tab, and no DEL. Bytes above 127 are
legal, but only a value of printable ASCII and tabs can be shown as text.

## Contents

* `Header.Value` — a value with the proof that it is one;
* `Value.ofBytes?` — admission of a byte string;
* `Value.text?` — the text of a printable value.
-/

namespace TextSocket.Header

/-- A byte that may stand in a value: anything from space upwards except DEL, or a tab. -/
def isValueByte (b : UInt8) : Bool := (32 ≤ b && b != 127) || b == 9

/-- A header value. -/
structure Value where
  /-- The value's bytes. -/
  bytes : Bytes
  /-- Every byte may stand in a value. -/
  valid : bytes.all isValueByte = true
  deriving DecidableEq

namespace Value

instance : Repr Value where
  reprPrec value _ := repr value.bytes.latin1

/-- The value with the given bytes, if they may all stand in one. -/
def ofBytes? (bytes : Bytes) : Option Value :=
  if h : bytes.all isValueByte = true then some ⟨bytes, h⟩ else none

/-- Whether the value is printable ASCII and tabs throughout. -/
def isPrintable (value : Value) : Bool := value.bytes.all Ascii.isPrintable

/-- The text of a printable value. -/
def text? (value : Value) : Option String :=
  if value.isPrintable then some value.bytes.latin1 else none

theorem eq_of_bytes {a b : Value} (h : a.bytes = b.bytes) : a = b := by
  cases a; cases b; cases h; rfl

/-- The value in quotes, with a quote escaped and each unprintable byte as a hexadecimal escape. -/
def quoted (value : Value) : String :=
  let escape (b : UInt8) : List Char :=
    if b == 34 then ['\\', '"']
    else if Ascii.isPrintable b then [Char.ofNat b.toNat]
    else ['\\', 'x'] ++ Nat.toDigits 16 b.toNat
  String.ofList ('"' :: value.bytes.flatMap escape ++ ['"'])

end Value

end TextSocket.Header
