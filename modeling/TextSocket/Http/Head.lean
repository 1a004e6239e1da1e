import TextSocket.Ascii
import TextSocket.Http.Fault

/-!
# `TextSocket.Http.Head` — the lines of a message head

The head of a message is a start line, header lines and a blank line. A line ends in a line feed, with or
without a carriage return in front of it; blank lines before the start line are skipped. Reading takes a line
apart as soon as its bytes are there: it finds what it looks for, or the bytes end within it, or it comes upon a
byte that does not belong there.

## Contents

* `Http.Scan` — the three results of reading;
* `Head.readToken`, `Head.readTarget`, `Head.readVersion`, `Head.readCode`, … — the parts of a start line;
* `Head.readFields` — the header lines and the blank line;
* `Head.write` — the written form of a head.
-/

namespace TextSocket.Http

/-! ## Results of reading -/

/-- What reading a part of a head comes to. -/
inductive Scan (α : Type) where
  /-- The part, and the bytes behind it. -/
  | found (value : α) (rest : Bytes)
  /-- The bytes end within the part. -/
  | unfinished
  /-- A byte does not belong there. -/
  | fault (cause : HeadFault)
  deriving DecidableEq

namespace Scan

/-- Goes on behind a part that was found. -/
def andThen {α β : Type} (scan : Scan α) (next : α → Bytes → Scan β) : Scan β :=
  match scan with
  | found value rest => next value rest
  | unfinished => unfinished
  | fault cause => fault cause

/-- Changes the part that was found. -/
def map {α β : Type} (change : α → β) (scan : Scan α) : Scan β :=
  scan.andThen fun value rest => found (change value) rest

end Scan

namespace Head

/-! ## Parts of a start line -/

/-- Skips blank lines. -/
def skipBlankLines : Bytes → Scan Unit
  | [] => .unfinished
  | 10 :: rest => skipBlankLines rest
  | 13 :: 10 :: rest => skipBlankLines rest
  | [13] => .unfinished
  | 13 :: _ => .fault .newLine
  | bytes => .found () bytes

/-- Reads a nonempty token with the space behind it. -/
def readToken (bytes : Bytes) : Scan Bytes :=
  let token := bytes.takeWhile Ascii.isToken
  match bytes.drop token.length with
  | [] => .unfinished
  | 32 :: rest => if token.isEmpty then .fault .token else .found token rest
  | _ => .fault .token

/-- A byte of a target: no control, no space. -/
def isTargetByte (b : UInt8) : Bool := 32 < b && b != 127

/-- Reads a nonempty target with the space behind it. It must be valid UTF-8. -/
def readTarget (bytes : Bytes) : Scan Bytes :=
  let target := bytes.takeWhile isTargetByte
  match bytes.drop target.length with
  | [] => .unfinished
  | 32 :: rest =>
    if target.isEmpty || (Bytes.text? target).isNone then .fault .token else .found target rest
  | _ => .fault .token

/-- The written form of the protocol, up to the minor version. -/
def protocolName : Bytes := Bytes.ofText "HTTP/1."

/-- Reads the version; what is found is the minor version. -/
def readVersion (bytes : Bytes) : Scan Nat :=
  if 8 ≤ bytes.length then
    if bytes.take 8 = protocolName ++ [48] then .found 0 (bytes.drop 8)
    else if bytes.take 8 = protocolName ++ [49] then .found 1 (bytes.drop 8)
    else .fault .version
  else if bytes.isPrefixOf protocolName then .unfinished
  else .fault .version

/-- Reads the end of a line. -/
def readLineEnd (cause : HeadFault) : Bytes → Scan Unit
  | [] => .unfinished
  | 10 :: rest => .found () rest
  | 13 :: 10 :: rest => .found () rest
  | [13] => .unfinished
  | _ => .fault cause

/-- Reads a space. -/
def readSpace (cause : HeadFault) : Bytes → Scan Unit
  | [] => .unfinished
  | 32 :: rest => .found () rest
  | _ => .fault cause

/-- Reads `count` digits of a code; what is found continues the number `n`. -/
def readCode : Nat → Nat → Bytes → Scan Nat
  | 0, n, bytes => .found n bytes
  | _ + 1, _, [] => .unfinished
  | count + 1, n, b :: rest =>
    if Ascii.isDigit b then readCode count (n * 10 + (b.toNat - 48)) rest else .fault .status

/-- A byte of a reason phrase. -/
def isReasonByte (b : UInt8) : Bool := (32 ≤ b && b != 127) || b == 9

/-- Reads the rest of a status line behind the code: a space and a phrase, or nothing. -/
def readReason (bytes : Bytes) : Scan Unit :=
  match bytes with
  | 32 :: rest => readLineEnd .status (rest.dropWhile isReasonByte)
  | _ => readLineEnd .status bytes

/-! ## Header lines -/

/-- A byte of a header value. -/
def isFieldByte (b : UInt8) : Bool := (32 ≤ b && b != 127) || b == 9

/-- Reads the value of a header line with the end of the line. Blanks on either side do not belong to it. -/
def readFieldValue (bytes : Bytes) : Scan Bytes :=
  let bytes := bytes.dropWhile Ascii.isBlank
  let value := bytes.takeWhile isFieldByte
  (readLineEnd .headerValue (bytes.drop value.length)).map fun _ => Ascii.trimBlanks value

/-- Reads a header line: a name, directly behind it a colon, and a value. -/
def readField (bytes : Bytes) : Scan (Bytes × Bytes) :=
  let name := bytes.takeWhile Ascii.isToken
  match bytes.drop name.length with
  | [] => .unfinished
  | 58 :: rest =>
    if name.isEmpty then .fault .headerName else (readFieldValue rest).map fun value => (name, value)
  | _ => .fault .headerName

/-- Reads header lines, at most `left` of them, and the blank line behind them. -/
def readFields (left : Nat) (bytes : Bytes) : Scan (List (Bytes × Bytes)) :=
  match bytes with
  | [] => .unfinished
  | 10 :: rest => .found [] rest
  | 13 :: 10 :: rest => .found [] rest
  | [13] => .unfinished
  | 13 :: _ => .fault .newLine
  | bytes =>
    (readField bytes).andThen fun field rest =>
      match left with
      | 0 => .fault .tooManyHeaders
      | left + 1 => (readFields left rest).map fun fields => field :: fields

/-! ## Writing -/

/-- The end of a line. -/
def lineEnd : Bytes := [13, 10]

/-- The written form of a header line. -/
def writeField (field : Bytes × Bytes) : Bytes :=
  field.1 ++ Bytes.ofText ": " ++ field.2 ++ lineEnd

/-- The written form of a head: the start line, the header lines and the blank line. -/
def write (start : Bytes) (fields : List (Bytes × Bytes)) : Bytes :=
  start ++ lineEnd ++ fields.flatMap writeField ++ lineEnd

end Head

end TextSocket.Http
