import TextSocket.Header.Fields
import TextSocket.Http.Head
import TextSocket.Http.Target

/-!
# `TextSocket.Http.Request` — the head of a request

## Contents

* `Http.Method`, `Http.Request` — a request;
* `Http.RequestFault` — why there is none;
* `Request.parse` — reading the head of a request;
* `Request.render` — its written form.
-/

namespace TextSocket.Http

/-! ## Requests -/

/-- The method of a request: a nonempty token. -/
structure Method where
  /-- The token, in which case matters. -/
  bytes : Bytes
  /-- It is a token. -/
  valid : bytes ≠ [] ∧ bytes.all Ascii.isToken = true
  deriving DecidableEq

namespace Method

/-- The method that a token names. -/
def ofBytes? (bytes : Bytes) : Option Method :=
  if h : bytes ≠ [] ∧ bytes.all Ascii.isToken = true then some ⟨bytes, h⟩ else none

/-- The method that asks for an upgrade. -/
def get : Method := ⟨Bytes.ofText "GET", by decide⟩

end Method

/-- The head of a request. -/
structure Request where
  /-- What is to be done. -/
  method : Method
  /-- What it is to be done with. -/
  target : Target
  /-- The header fields. -/
  fields : Header.Fields
  deriving DecidableEq

/-- Why there is no request. -/
inductive RequestFault where
  /-- The head is longer than the limit. -/
  | tooLarge
  /-- The stream ended within the head. -/
  | closedEarly
  /-- The head ends before it is complete. -/
  | incomplete
  /-- The head cannot be split into its parts. -/
  | head (cause : HeadFault)
  /-- A part of the head is not what it should be. -/
  | part (cause : PartFault)
  deriving DecidableEq

namespace RequestFault

/-- The wording of a cause. -/
def message : RequestFault → String
  | tooLarge => "HTTP request head too large"
  | closedEarly => "Connection closed before request head completed"
  | incomplete => "Incomplete HTTP request"
  | head cause => "Failed to parse HTTP request: " ++ cause.message
  | part cause => "Invalid HTTP request: " ++ cause.message

end RequestFault

/-! ## Fields from lines -/

/-- The header field that a line amounts to. -/
def fieldOfLine (line : Bytes × Bytes) : Except PartFault (Header.Name × Header.Value) :=
  match Header.Name.ofBytes? line.1, Header.Value.ofBytes? line.2 with
  | none, _ => .error .headerName
  | _, none => .error .headerValue
  | some name, some value => .ok (name, value)

/-- The header fields that lines amount to. -/
def fieldsOfLines (lines : List (Bytes × Bytes)) : Except PartFault Header.Fields :=
  (lines.mapM fieldOfLine).map Header.Fields.ofList

namespace Request

/-! ## Reading -/

/-- The greatest number of header lines. -/
def fieldLimit : Nat := 64

/-- The parts of the head of a request. -/
structure Parts where
  /-- The method. -/
  method : Bytes
  /-- The target. -/
  target : Bytes
  /-- The header lines. -/
  lines : List (Bytes × Bytes)
  deriving DecidableEq

/-- Takes the head of a request apart. -/
def split (bytes : Bytes) : Scan Parts :=
  (Head.skipBlankLines bytes).andThen fun _ bytes =>
  (Head.readToken bytes).andThen fun method bytes =>
  (Head.readTarget bytes).andThen fun target bytes =>
  (Head.readVersion bytes).andThen fun _ bytes =>
  (Head.readLineEnd .newLine bytes).andThen fun _ bytes =>
  (Head.readFields fieldLimit bytes).map fun lines => ⟨method, target, lines⟩

/-- Makes a request of its parts. -/
def ofParts (parts : Parts) : Except PartFault Request :=
  match Method.ofBytes? parts.method with
  | none => .error .method
  | some method => do
    let target ← Target.parse parts.target
    let fields ← fieldsOfLines parts.lines
    return ⟨method, target, fields⟩

/-- Reads the head of a request; what follows the head is returned with it. -/
def parse (bytes : Bytes) : Except RequestFault (Request × Bytes) :=
  match split bytes with
  | .unfinished => .error .incomplete
  | .fault cause => .error (.head cause)
  | .found parts rest =>
    match ofParts parts with
    | .ok request => .ok (request, rest)
    | .error cause => .error (.part cause)

/-! ## Writing -/

/-- The first line of a request. -/
def startLine (method : Method) (target : Bytes) : Bytes :=
  method.bytes ++ [32] ++ target ++ [32] ++ Head.protocolName ++ [49]

/-- The written form of the head of a request. -/
def render (method : Method) (target : Bytes) (lines : List (Bytes × Bytes)) : Bytes :=
  Head.write (startLine method target) lines

end Request

end TextSocket.Http
