import TextSocket.Bytes

/-!
# `TextSocket.Json.Writer` — writing JSON

Documents are written compactly, without white space. In a string the quote, the backslash and the control
characters are escaped, the usual controls by a letter and the others by their code point in four small
hexadecimal digits; every other character stands as it is.

## Contents

* `Json.writeText` — a string;
* `Json.writeWord` — a number;
* `Json.writeObject` — an object from its members' keys and written values.
-/

namespace TextSocket.Json

/-- The form of a character within a string. -/
def writeChar (c : Char) : List Char :=
  if c = '"' then ['\\', '"']
  else if c = '\\' then ['\\', '\\']
  else if c = '\x08' then ['\\', 'b']
  else if c = '\x0c' then ['\\', 'f']
  else if c = '\n' then ['\\', 'n']
  else if c = '\r' then ['\\', 'r']
  else if c = '\t' then ['\\', 't']
  else if c.toNat < 32 then
    ['\\', 'u', '0', '0', Bytes.hexDigit (c.toNat / 16), Bytes.hexDigit (c.toNat % 16)]
  else [c]

/-- A string, as characters. -/
def writeChars (text : String) : List Char :=
  '"' :: text.toList.flatMap writeChar ++ ['"']

/-- A string. -/
def writeText (text : String) : String := String.ofList (writeChars text)

/-- A 64-bit word in plain digits. -/
def writeWord (n : UInt64) : List Char := Nat.toDigits 10 n.toNat

/-- The members of an object with commas between them. -/
def writeMembers : List (String × List Char) → List Char
  | [] => []
  | [(key, value)] => writeChars key ++ ':' :: value
  | (key, value) :: rest => writeChars key ++ ':' :: value ++ ',' :: writeMembers rest

/-- An object from its members' keys and written values. -/
def writeObject (members : List (String × List Char)) : List Char :=
  '\x7b' :: writeMembers members ++ ['\x7d']

end TextSocket.Json
