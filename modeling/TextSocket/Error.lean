import TextSocket.Json.Error
import TextSocket.Socket.Error
import TextSocket.Url.Fault

/-!
# `TextSocket.Error` — failures that a caller sees

Every operation of the library fails with one of these. Handshake failures say nothing about their cause:
the cause is written to the peer. Four questions sort the failures for callers that only want to know what to
do next.

## Contents

* `Error` — the failures;
* `Error.message` — their wording;
* `Error.isTimeout`, `Error.isProtocolViolation`, `Error.isHandshakeFailure`, `Error.isConnectionFailure`.
-/

namespace TextSocket

/-- A call with a deadline. -/
inductive Deadline where
  /-- Reading a message. -/
  | read
  /-- Writing a message. -/
  | write
  /-- Waiting for the head of a request. -/
  | requestHead
  /-- Any other call, in its own words. -/
  | other (name : String)
  deriving DecidableEq, Repr

namespace Deadline

/-- The wording of a call. -/
def describe : Deadline → String
  | read => "read"
  | write => "write"
  | requestHead => "request head"
  | other name => name

end Deadline

/-- A failure. -/
inductive Error where
  /-- A configuration that breaks its rules. -/
  | config (message : String)
  /-- A binary message was received. -/
  | binaryMessage
  /-- An empty text was received. -/
  | emptyMessage
  /-- A request head is malformed. -/
  | protocol (message : String)
  /-- A message could not be decoded. -/
  | badBuffer
  /-- An upgrade was asked for by another method than `GET`. -/
  | methodNotAllowed
  /-- An upgrade failed. -/
  | upgradeFailed
  /-- The connection is closed. -/
  | connectionClosed
  /-- A deadline has passed. -/
  | timeout (call : Deadline) (millis : UInt64)
  /-- The network failed. -/
  | io (error : IoError)
  /-- The socket layer failed. -/
  | socket (error : Socket.Error)
  /-- A target is no URL. -/
  | url (fault : Url.Fault)
  /-- A document of settings is malformed. -/
  | json (error : Json.Error)

namespace Error

/-- The wording of a failure. -/
def message : Error → String
  | config message => "Configuration error: " ++ message
  | binaryMessage => "Binary messages are not supported"
  | emptyMessage => "Wrong packet type error"
  | protocol message => "Protocol error: " ++ message
  | badBuffer => "Buffer error"
  | methodNotAllowed => "Method not allowed"
  | upgradeFailed => "Http upgrade failed"
  | connectionClosed => "Connection closed"
  | timeout call millis =>
    "Timeout after " ++ toString millis.toNat ++ "ms: " ++ call.describe
  | io error => "IO error: " ++ error.message
  | socket error => "WebSocket error: " ++ error.message
  | url fault => "URL error: " ++ fault.message
  | json error => "JSON error: " ++ error.message

/-! ## Categories -/

/-- Whether a deadline has passed. -/
def isTimeout : Error → Bool
  | timeout _ _ => true
  | _ => false

/-- Whether the peer sent a message of a kind that is not carried. -/
def isProtocolViolation : Error → Bool
  | binaryMessage | emptyMessage => true
  | _ => false

/-- Whether an upgrade failed. -/
def isHandshakeFailure : Error → Bool
  | methodNotAllowed | upgradeFailed => true
  | _ => false

/-- Whether the connection is closed, late or broken. -/
def isConnectionFailure : Error → Bool
  | connectionClosed | timeout _ _ | io _ | socket _ => true
  | _ => false

end Error

end TextSocket
