import TextSocket.Bytes

/-!
# `TextSocket.Text.Utf8` — texts that arrive in pieces

A text may be cut anywhere, also within a character. Reading its UTF-8 form byte by byte tells at the first
wrong byte that no continuation can be a text.

## Contents

* `Utf8.State`, `Utf8.next?` — where in a character the bytes end, and one more byte;
* `Utf8.run?` — a piece of a text.
-/

namespace TextSocket.Text.Utf8

/-- Where the bytes so far end: how many bytes of the last character are to come, and the bounds of the next
    one. -/
structure State where
  /-- The bytes that are to come. -/
  missing : Nat
  /-- The least value of the next one. -/
  least : UInt8
  /-- The greatest value of the next one. -/
  greatest : UInt8
  deriving DecidableEq, Repr

/-- Between two characters. -/
def boundary : State := ⟨0, 0, 0⟩

/-- Behind the first byte of a character. Forms that are too long, surrogates and numbers beyond the last
    character are excluded by the bounds of the second byte. -/
def first? (b : UInt8) : Option State :=
  if b < 128 then some boundary
  else if b < 194 then none
  else if b < 224 then some ⟨1, 128, 191⟩
  else if b = 224 then some ⟨2, 160, 191⟩
  else if b = 237 then some ⟨2, 128, 159⟩
  else if b < 240 then some ⟨2, 128, 191⟩
  else if b = 240 then some ⟨3, 144, 191⟩
  else if b < 244 then some ⟨3, 128, 191⟩
  else if b = 244 then some ⟨3, 128, 143⟩
  else none

/-- One more byte; none if no text continues so. -/
def next? (s : State) (b : UInt8) : Option State :=
  if s.missing = 0 then first? b
  else if s.least ≤ b ∧ b ≤ s.greatest then
    if s.missing = 1 then some boundary else some ⟨s.missing - 1, 128, 191⟩
  else none

/-- A piece of a text; none if no text continues so. -/
def run? (s : State) (bytes : Bytes) : Option State := bytes.foldlM next? s

end TextSocket.Text.Utf8
