import TextSocket.Bytes
import TextSocket.Json.Error

/-!
# `TextSocket.Json.Reader` — reading JSON values of a known type

A reader takes the text that is left and returns a value and what is then left, or stops at a fault. A reader
for a number, a string or an object states a fault as soon as it meets one, so of two faults in a document
the first one is reported. A fault remembers how much text was left, from which its place follows.

## Contents

* `Json.Stuck` — a reader's failure, `Json.Reader` — a reader;
* `Json.readText` — strings with their escapes;
* `Json.readNumber`, `Json.readWord` — numbers, and unsigned 64-bit words;
* `Json.readMembers`, `Json.readObject` — objects, member by member;
* `Json.read` — a whole document, with the place of a fault.
-/

namespace TextSocket.Json

/-! ## Results -/

/-- A reader that stopped: the cause, the text that was left, and how many further bytes the reader had
    already looked past. -/
structure Stuck where
  /-- The cause. -/
  fault : Fault
  /-- The text that was left. -/
  rest : List Char
  /-- Bytes of it that were looked past. -/
  past : Nat

/-- A reader of one kind of value: the value and the text after it, or the point where it stopped. -/
abbrev Reader (α : Type) := List Char → Except Stuck (α × List Char)

/-- Stops before the text that is left. -/
def stop {α : Type} (fault : Fault) (rest : List Char) : Except Stuck α :=
  .error ⟨fault, rest, 0⟩

/-- Stops behind the next byte of the text that is left. -/
def stopPast {α : Type} (fault : Fault) (rest : List Char) : Except Stuck α :=
  .error ⟨fault, rest, 1⟩

/-- White space between tokens. -/
def isBlank (c : Char) : Bool := c = ' ' || c = '\n' || c = '\t' || c = '\r'

/-- The text from its first character that is not white space. -/
def skipBlanks (s : List Char) : List Char := s.dropWhile isBlank

/-! ## Strings -/

/-- The value of four hexadecimal digits and the text after them. Four bytes are looked at, whatever they
    hold. -/
def readHex4 (s : List Char) : Except Stuck (Nat × List Char) :=
  match s with
  | a :: b :: c :: d :: rest =>
    match Bytes.hexValue? a, Bytes.hexValue? b, Bytes.hexValue? c, Bytes.hexValue? d with
    | some a, some b, some c, some d => .ok (((a * 16 + b) * 16 + c) * 16 + d, rest)
    | _, _, _, _ => .error ⟨.badEscape, s, 4⟩
  | _ => if 4 ≤ (String.ofList s).utf8ByteSize then .error ⟨.badEscape, s, 4⟩ else stop .endInString []

/-- Whether a 16-bit unit is the first half of a pair. -/
def isHighHalf (n : Nat) : Bool := 0xD800 ≤ n && n ≤ 0xDBFF

/-- Whether a 16-bit unit is the second half of a pair. -/
def isLowHalf (n : Nat) : Bool := 0xDC00 ≤ n && n ≤ 0xDFFF

/-- The character of a `\u` escape, whose digits the text starts with. Halves must come in pairs. -/
def readUnit (s : List Char) : Except Stuck (Char × List Char) := do
  let (n, rest) ← readHex4 s
  if isLowHalf n then stop .loneSurrogate rest
  else if isHighHalf n then
    match rest with
    | '\\' :: 'u' :: rest =>
      let (m, rest) ← readHex4 rest
      if isLowHalf m then
        .ok (Char.ofNat ((n - 0xD800) * 0x400 + (m - 0xDC00) + 0x10000), rest)
      else stop .loneSurrogate rest
    | ['\\'] => stop .endInString []
    | '\\' :: rest => stopPast .pairBreaksOff rest
    | [] => stop .endInString []
    | rest => stopPast .pairBreaksOff rest
  else .ok (Char.ofNat n, rest)

/-- The character that a one-letter escape stands for. -/
def shortEscape? (c : Char) : Option Char :=
  if c = '"' ∨ c = '\\' ∨ c = '/' then some c
  else if c = 'b' then some '\x08'
  else if c = 'f' then some '\x0c'
  else if c = 'n' then some '\n'
  else if c = 'r' then some '\r'
  else if c = 't' then some '\t'
  else none

/-- Whether a character may not stand in a string as it is. -/
def isControl (c : Char) : Bool := c.toNat < 32

/-- Reads a string whose opening quote has been read, with at most `fuel` characters and escapes. -/
def readTextFrom : Nat → List Char → Except Stuck (List Char × List Char)
  | 0, s => stop .endInString s
  | _ + 1, [] => stop .endInString []
  | fuel + 1, c :: rest =>
    if c = '"' then .ok ([], rest)
    else if c = '\\' then
      match rest with
      | [] => stop .endInString []
      | e :: rest' => do
        let (c, rest) ←
          if e = 'u' then readUnit rest'
          else match shortEscape? e with
            | some c => .ok (c, rest')
            | none => stopPast .badEscape rest
        let (cs, rest) ← readTextFrom fuel rest
        .ok (c :: cs, rest)
    else if isControl c then stopPast .controlInString (c :: rest)
    else do
      let (cs, rest) ← readTextFrom fuel rest
      .ok (c :: cs, rest)

/-- Reads a string whose opening quote has been read. -/
def readString (s : List Char) : Except Stuck (String × List Char) := do
  let (cs, rest) ← readTextFrom (s.length + 1) s
  .ok (String.ofList cs, rest)

/-! ## Literals and numbers -/

/-- Reads the letters of a literal of which the first has been read. -/
def readLetters : List Char → List Char → Except Stuck (Unit × List Char)
  | [], s => .ok ((), s)
  | _ :: _, [] => stop .endInValue []
  | expected :: more, c :: rest =>
    if c = expected then readLetters more rest else stopPast .badLiteral (c :: rest)

/-- A number as its text gives it. -/
inductive Number where
  /-- A whole number without a sign. -/
  | natural (n : Nat)
  /-- A whole number below zero. -/
  | negative (n : Nat)
  /-- A number with a point or an exponent, a whole number beyond 64 bits, or minus zero. -/
  | real (x : Float)

/-- The greatest number that fits into 64 bits. -/
def maxWord : Nat := 0xFFFFFFFFFFFFFFFF

/-- Appends digits to a number as long as it fits into 64 bits, and counts the digits that are left. -/
def absorb (n : Nat) : List Char → Nat × Nat
  | [] => (n, 0)
  | c :: rest =>
    let next := n * 10 + (c.toNat - 48)
    if next ≤ maxWord then absorb next rest else (n, rest.length + 1)

/-- `significand · 10^exponent` in floating point: one rounding for the significand, one for the power. No
    number beyond the range results. -/
def scale? (significand : Nat) (exponent : Int) : Option Float :=
  let f := Float.ofNat significand
  let power (n : Nat) : Float := Float.ofScientific 1 false n
  if 0 ≤ exponent then
    if exponent ≤ 308 then
      let g := f * power exponent.toNat
      if g.isInf then none else some g
    else if significand = 0 then some f else none
  else if -308 ≤ exponent then some (f / power (-exponent).toNat)
  else if -616 ≤ exponent then some (f / power 308 / power (-exponent - 308).toNat)
  else some 0.0

/-- A floating point number with its sign. -/
def signed (positive : Bool) (x : Float) : Float := if positive then x else -x

/-- The exponent that digits write, or the text after the digit that takes it beyond 31 bits. -/
def absorbExponent (n : Nat) : List Char → Except (List Char) Nat
  | [] => .ok n
  | c :: rest =>
    let next := n * 10 + (c.toNat - 48)
    if next ≤ 0x7FFFFFFF then absorbExponent next rest else .error rest

/-- Reads an exponent behind its letter, and puts the number together. -/
def readExponent (positive : Bool) (significand : Nat) (exponent : Int) (s : List Char) :
    Except Stuck (Float × List Char) := do
  let (up, s) : Bool × List Char := match s with
    | '+' :: rest => (true, rest)
    | '-' :: rest => (false, rest)
    | s => (true, s)
  match s with
  | [] => stop .endInValue []
  | c :: rest =>
    if c.isDigit then
      let digits := s.takeWhile Char.isDigit
      let rest := s.dropWhile Char.isDigit
      match absorbExponent 0 digits with
      | .ok n =>
        match scale? significand (if up then exponent + n else exponent - n) with
        | some x => .ok (signed positive x, rest)
        | none => stop .numberOutOfRange rest
      | .error left =>
        if up ∧ significand ≠ 0 then stop .numberOutOfRange (left ++ rest)
        else .ok (signed positive 0.0, rest)
    else stopPast .badNumber (c :: rest)

/-- Reads what may follow the digits before the point, and puts the number together. -/
def readTail (positive : Bool) (significand : Nat) (exponent : Int) (s : List Char) :
    Except Stuck (Float × List Char) :=
  match s with
  | c :: rest =>
    if c = 'e' ∨ c = 'E' then readExponent positive significand exponent rest
    else match scale? significand exponent with
      | some x => .ok (signed positive x, s)
      | none => stop .numberOutOfRange s
  | [] =>
    match scale? significand exponent with
    | some x => .ok (signed positive x, s)
    | none => stop .numberOutOfRange s

/-- Reads the digits behind a point. -/
def readFraction (positive : Bool) (significand : Nat) (exponent : Int) (s : List Char) :
    Except Stuck (Float × List Char) :=
  let digits := s.takeWhile Char.isDigit
  let rest := s.dropWhile Char.isDigit
  if digits.isEmpty then
    match s with
    | [] => stop .endInValue []
    | _ => stopPast .badNumber s
  else
    let (n, left) := absorb significand digits
    readTail positive n (exponent - (digits.length - left : Nat)) rest

/-- Reads a number behind its sign. -/
def readNumber (positive : Bool) (s : List Char) : Except Stuck (Number × List Char) :=
  match s with
  | [] => stop .endInValue []
  | c :: rest =>
    if c = '0' ∧ (rest.head?.any Char.isDigit) then stopPast .badNumber rest
    else if c.isDigit then
      let digits := s.takeWhile Char.isDigit
      let rest := s.dropWhile Char.isDigit
      let (n, left) := absorb 0 digits
      match rest with
      | '.' :: fraction => (readFraction positive n left fraction).map (·.map Number.real id)
      | _ =>
        if left ≠ 0 ∨ rest.head? = some 'e' ∨ rest.head? = some 'E' then
          (readTail positive n left rest).map (·.map Number.real id)
        else if positive then .ok (.natural n, rest)
        else if n = 0 ∨ 0x8000000000000000 < n then .ok (.real (-Float.ofNat n), rest)
        else .ok (.negative n, rest)
    else stopPast .badNumber s

namespace Number

/-- The number as something found in a wrong place. -/
def shape : Number → Shape
  | natural n => .integer n
  | negative n => .integer (-(n : Int))
  | real x => .real x

end Number

/-! ## Values of an expected type -/

/-- Stops at a value of another type than expected. A number, a string or a literal is read first, and the
    place is behind it; a list or an object is not entered. -/
def wrongType {α : Type} (expected : String) (s : List Char) : Except Stuck α :=
  match s with
  | 'n' :: rest => do
    let (_, rest) ← readLetters ['u', 'l', 'l'] rest
    stop (.wrongType .null expected) rest
  | 't' :: rest => do
    let (_, rest) ← readLetters ['r', 'u', 'e'] rest
    stop (.wrongType (.boolean true) expected) rest
  | 'f' :: rest => do
    let (_, rest) ← readLetters ['a', 'l', 's', 'e'] rest
    stop (.wrongType (.boolean false) expected) rest
  | '-' :: rest => do
    let (n, rest) ← readNumber false rest
    stop (.wrongType n.shape expected) rest
  | '"' :: rest => do
    let (text, rest) ← readString rest
    stop (.wrongType (.text text) expected) rest
  | '[' :: _ => stop (.wrongType .list expected) s
  | '\x7b' :: _ => stop (.wrongType .object expected) s
  | c :: _ =>
    if c.isDigit then do
      let (n, rest) ← readNumber true s
      stop (.wrongType n.shape expected) rest
    else stopPast .noValue s
  | [] => stop .endInValue []

/-- Reads an unsigned 64-bit word, which an error message calls `expected`. -/
def readWord (expected : String) (s : List Char) : Except Stuck (UInt64 × List Char) :=
  match skipBlanks s with
  | [] => stop .endInValue []
  | '-' :: rest => do
    let (n, rest) ← readNumber false rest
    match n with
    | .real x => stop (.wrongType (.real x) expected) rest
    | n => stop (.wrongValue n.shape expected) rest
  | c :: rest =>
    if c.isDigit then do
      let (n, rest) ← readNumber true (c :: rest)
      match n with
      | .natural n => .ok (UInt64.ofNat n, rest)
      | n => stop (.wrongType n.shape expected) rest
    else wrongType expected (c :: rest)

/-- Reads a string, which an error message calls `expected`. -/
def readText (expected : String) (s : List Char) : Except Stuck (String × List Char) :=
  match skipBlanks s with
  | [] => stop .endInValue []
  | '"' :: rest => readString rest
  | s => wrongType expected s

/-! ## Objects and lists -/

/-- Reads the colon behind a key. -/
def readColon (s : List Char) : Except Stuck (List Char) :=
  match skipBlanks s with
  | [] => stop .endInObject []
  | ':' :: rest => .ok rest
  | s => stopPast .noColon s

/-- Reads the members of an object up to its closing brace, at most `fuel` of them. `member` reads what stands
    behind a key, from the colon on, and returns the new state. -/
def readMembers {σ : Type} (member : σ → String → Reader σ) :
    Nat → Bool → σ → List Char → Except Stuck (σ × List Char)
  | 0, _, _, s => stop .endInObject s
  | fuel + 1, first, state, s =>
    let next (s : List Char) : Except Stuck (σ × List Char) := do
      let (key, rest) ← readString s
      let (state, rest) ← member state key rest
      readMembers member fuel false state rest
    match skipBlanks s with
    | [] => stop .endInObject []
    | '\x7d' :: rest => .ok (state, rest)
    | c :: rest =>
      if first then
        if c = '"' then next rest else stopPast .badKey (c :: rest)
      else if c = ',' then
        match skipBlanks rest with
        | [] => stop .endInValue []
        | '"' :: rest => next rest
        | '\x7d' :: rest => stopPast .trailingComma ('\x7d' :: rest)
        | rest => stopPast .badKey rest
      else stopPast .noCommaInObject (c :: rest)

/-- Reads an object behind its opening brace. -/
def readObject {σ : Type} (member : σ → String → Reader σ) (start : σ) (s : List Char) :
    Except Stuck (σ × List Char) :=
  readMembers member (s.length + 1) true start s

/-- Reads the elements of a list up to its closing bracket, one by each reader in turn; the list may end
    early but not go on. -/
def readElements {σ : Type} : List (σ → Reader σ) → Bool → σ → List Char → Except Stuck (σ × List Char)
  | [], first, state, s =>
    match skipBlanks s with
    | [] => stop .endInList []
    | ']' :: rest => .ok (state, rest)
    | ',' :: rest =>
      if first then stopPast .trailingCharacters (',' :: rest)
      else match skipBlanks rest with
        | ']' :: rest => stopPast .trailingComma (']' :: rest)
        | rest => stopPast .trailingCharacters rest
    | s => stopPast .trailingCharacters s
  | element :: more, first, state, s =>
    match skipBlanks s with
    | [] => stop .endInList []
    | ']' :: rest => .ok (state, rest)
    | c :: rest =>
      if first then do
        let (state, rest) ← element state (c :: rest)
        readElements more false state rest
      else if c = ',' then
        match skipBlanks rest with
        | [] => stop .endInValue []
        | ']' :: rest => stopPast .trailingComma (']' :: rest)
        | rest => do
          let (state, rest) ← element state rest
          readElements more false state rest
      else stopPast .noCommaInList (c :: rest)

/-! ## Documents -/

/-- The line and column reached after the given bytes of a document. -/
def place (read : Bytes) : Nat × Nat :=
  (1 + read.count 10, (read.reverse.takeWhile (· != 10)).length)

/-- The error that a stopped reader of a document amounts to. -/
def Stuck.toError (document : List Char) (stuck : Stuck) : Error :=
  let bytes := Bytes.ofText (String.ofList document)
  let left := (Bytes.ofText (String.ofList stuck.rest)).length
  let reached := place (bytes.take (bytes.length - left + stuck.past))
  ⟨stuck.fault, reached.1, reached.2⟩

/-- Reads a whole document with a reader for its value. Only white space may follow the value. -/
def read {α : Type} (value : Reader α) (document : String) : Except Error α :=
  let outcome : Except Stuck α := do
    let (x, rest) ← value document.toList
    match skipBlanks rest with
    | [] => .ok x
    | rest => stopPast .trailingCharacters rest
  outcome.mapError (Stuck.toError document.toList)

end TextSocket.Json
