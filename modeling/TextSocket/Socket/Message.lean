import TextSocket.Frame.Basic
import TextSocket.Socket.Error
import TextSocket.Text.Utf8

/-!
# `TextSocket.Socket.Message` — messages, and their fragments

A message is a text, a binary message, or what a control frame carries. A text or a binary message may come in
fragments; a text is checked as far as it has come, so that a wrong byte is reported with the fragment that holds
it.

## Contents

* `Socket.Message`, `Socket.CloseReason` — what is carried;
* `CloseReason.read`, `CloseReason.payload` — the payload of a close frame;
* `Socket.Assembly` — a message of which fragments are still to come.
-/

namespace TextSocket.Socket

/-! ## Closing -/

/-- Why a peer closes the connection. -/
structure CloseReason where
  /-- The code. -/
  code : Nat
  /-- The reason in words. -/
  text : String
  deriving DecidableEq, Repr

namespace CloseReason

/-- The codes below 3000 that a peer may send. -/
def registered : List Nat := [1000, 1001, 1002, 1003, 1007, 1008, 1009, 1010, 1011, 1012, 1013]

/-- Whether a peer may send a code. -/
def isAllowed (code : Nat) : Bool := registered.contains code || (3000 ≤ code && code < 5000)

/-- The answer to a code that a peer may not send. -/
def violation : CloseReason := ⟨1002, "Protocol violation"⟩

/-- The payload of a close frame. -/
def payload : Option CloseReason → Bytes
  | none => []
  | some reason => Bytes.ofNat 2 reason.code ++ Bytes.ofText reason.text

/-- The reason that the payload of a close frame states. -/
def read (payload : Bytes) : Except Error (Option CloseReason) :=
  match payload with
  | [] => .ok none
  | [_] => .error (.protocol .badCloseSequence)
  | a :: b :: rest =>
    match Bytes.text? rest with
    | some text => .ok (some ⟨Bytes.toNat [a, b], text⟩)
    | none => .error (.utf8 "invalid close reason")

end CloseReason

/-! ## Messages -/

/-- A message. -/
inductive Message where
  /-- A text. -/
  | text (text : String)
  /-- Bytes. -/
  | binary (bytes : Bytes)
  /-- A question whether the peer is there. -/
  | ping (payload : Bytes)
  /-- The answer to it. -/
  | pong (payload : Bytes)
  /-- The end of the connection. -/
  | close (reason : Option CloseReason)
  deriving DecidableEq, Repr

/-- The greatest number of bytes in a message. -/
def messageLimit : Nat := 64 * 1024 * 1024

/-- The greatest number of bytes in the payload of a frame. -/
def frameLimit : Nat := 16 * 1024 * 1024

/-- The text that bytes stand for. -/
def textOf (bytes : Bytes) : Except Error Message :=
  match Bytes.text? bytes with
  | some text => .ok (.text text)
  | none => .error (.utf8 "invalid text")

/-! ## Fragments -/

/-- A message of which fragments are still to come. -/
structure Assembly where
  /-- Whether it is a text. -/
  isText : Bool
  /-- The bytes so far. -/
  bytes : Bytes
  /-- Where in a character they end, if it is a text. -/
  state : Text.Utf8.State
  deriving DecidableEq, Repr

namespace Assembly

/-- A message without bytes. -/
def start (isText : Bool) : Assembly := ⟨isText, [], Text.Utf8.boundary⟩

/-- Adds a fragment. -/
def add (assembly : Assembly) (fragment : Bytes) : Except Error Assembly :=
  let size := assembly.bytes.length + fragment.length
  if messageLimit < size then .error (.messageTooLong size messageLimit)
  else if assembly.isText then
    match Text.Utf8.run? assembly.state fragment with
    | some state => .ok { assembly with bytes := assembly.bytes ++ fragment, state }
    | none => .error (.utf8 "invalid text")
  else .ok { assembly with bytes := assembly.bytes ++ fragment }

/-- The message, when the last fragment has been added. -/
def complete (assembly : Assembly) : Except Error Message :=
  if assembly.isText then textOf assembly.bytes else .ok (.binary assembly.bytes)

end Assembly

end TextSocket.Socket
