import TextSocket.Bytes

/-!
# `TextSocket.Url.Percent` — percent-encoding

A character that has a meaning of its own in a part of a URL, or none at all, is written as its UTF-8 bytes,
each as a percent sign and two hexadecimal digits. Which characters are concerned depends on the part.

## Contents

* `Url.isFragmentEscape`, `isPathEscape`, `isUserEscape`, `isQueryEscape`, … — what is encoded where;
* `Url.encode` — encoding a text;
* `Url.decodeBytes` — decoding it into bytes.
-/

namespace TextSocket.Url

/-! ## What is encoded where -/

/-- Controls, and everything beyond ASCII. -/
def isControlEscape (c : Char) : Bool := c.toNat < 32 || 126 < c.toNat

/-- What is encoded in a fragment. -/
def isFragmentEscape (c : Char) : Bool := isControlEscape c || " \"<>`".toList.contains c

/-- What is encoded in a query. -/
def isQueryEscape (c : Char) : Bool := isControlEscape c || " \"#<>".toList.contains c

/-- What is encoded in a query of a URL of the web. -/
def isWebQueryEscape (c : Char) : Bool := isQueryEscape c || c.toNat == 39

/-- What is encoded in a path. -/
def isPathEscape (c : Char) : Bool := isFragmentEscape c || "#?\x7b\x7d".toList.contains c

/-- What is encoded in a user name or a password. -/
def isUserEscape (c : Char) : Bool := isPathEscape c || "/:;=@[\\]^|".toList.contains c

/-! ## Encoding -/

/-- A capital hexadecimal digit. -/
def upperHexDigit (n : Nat) : Char := (Bytes.hexDigit n).toUpper

/-- A byte as a percent sign and two digits. -/
def encodeByte (b : UInt8) : List Char :=
  ['%', upperHexDigit (b.toNat / 16), upperHexDigit (b.toNat % 16)]

/-- A character, encoded if it has to be. -/
def encodeChar (escape : Char → Bool) (c : Char) : List Char :=
  if escape c then (String.utf8EncodeChar c).flatMap encodeByte else [c]

/-- A text with the characters encoded that have to be. -/
def encode (escape : Char → Bool) (text : List Char) : List Char :=
  text.flatMap (encodeChar escape)

/-! ## Decoding -/

/-- The value of a byte that is a hexadecimal digit. -/
def hexValue? (b : UInt8) : Option Nat :=
  if b < 128 then Bytes.hexValue? (Char.ofNat b.toNat) else none

/-- The bytes of a text in which each percent sign with two digits behind it is the byte that they write. -/
def decodeBytes : Bytes → Bytes
  | 37 :: a :: b :: rest =>
    match hexValue? a, hexValue? b with
    | some x, some y => UInt8.ofNat (x * 16 + y) :: decodeBytes rest
    | _, _ => 37 :: decodeBytes (a :: b :: rest)
  | b :: rest => b :: decodeBytes rest
  | [] => []

end TextSocket.Url
