import TextSocket.Bytes

/-!
# `TextSocket.Ascii` — classes of ASCII bytes

The wire formats are defined over bytes. This module names the byte classes that they share and the
comparison that ignores the case of ASCII letters. No class below contains a byte above 127 unless its
comment says so.

## Contents

* `isDigit`, `isUpper`, `isLower`, `isAlpha`, `isToken`, `isBlank`, `isPrintable` — byte classes;
* `lower`, `equalFold` — case folding, and equality up to case;
* `trimBlanks`, `splitOn` — list elements of a header value.
-/

namespace TextSocket.Ascii

/-! ## Byte classes -/

/-- A decimal digit. -/
def isDigit (b : UInt8) : Bool := 48 ≤ b && b ≤ 57

/-- A capital letter. -/
def isUpper (b : UInt8) : Bool := 65 ≤ b && b ≤ 90

/-- A small letter. -/
def isLower (b : UInt8) : Bool := 97 ≤ b && b ≤ 122

/-- A letter. -/
def isAlpha (b : UInt8) : Bool := isUpper b || isLower b

/-- A hexadecimal digit in either case. -/
def isHex (b : UInt8) : Bool := isDigit b || (65 ≤ b && b ≤ 70) || (97 ≤ b && b ≤ 102)

/-- The marks that may stand in a token beside letters and digits. -/
def tokenMarks : Bytes := Bytes.ofText "!#$%&'*+-.^_`|~"

/-- A byte of a token: method names and header names consist of these. -/
def isToken (b : UInt8) : Bool := isAlpha b || isDigit b || tokenMarks.contains b

/-- A space or a tab. -/
def isBlank (b : UInt8) : Bool := b == 32 || b == 9

/-- A byte that shows as text: space to tilde, or a tab. -/
def isPrintable (b : UInt8) : Bool := (32 ≤ b && b < 127) || b == 9

/-! ## Case -/

/-- The small form of a capital letter; any other byte stays. -/
def lower (b : UInt8) : UInt8 := if isUpper b then b + 32 else b

/-- Equality up to the case of ASCII letters. -/
def equalFold (a b : Bytes) : Bool := a.map lower == b.map lower

/-! ## List elements -/

/-- The bytes without the blanks at either end. -/
def trimBlanks (bytes : Bytes) : Bytes :=
  ((bytes.dropWhile isBlank).reverse.dropWhile isBlank).reverse

/-- The pieces between the occurrences of a separator: one more than there are separators. -/
def splitOn (separator : UInt8) : Bytes → List Bytes
  | [] => [[]]
  | b :: rest =>
    if b = separator then [] :: splitOn separator rest
    else match splitOn separator rest with
      | [] => [[b]]
      | piece :: pieces => (b :: piece) :: pieces

end TextSocket.Ascii
