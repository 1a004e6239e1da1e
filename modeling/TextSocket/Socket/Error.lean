import TextSocket.Header.Name
import TextSocket.Http.Fault
import TextSocket.Http.Status
import TextSocket.IoError

/-!
# `TextSocket.Socket.Error` — failures of the socket layer

The socket layer dials, shakes hands, and carries frames. Its failures are passed to the caller with their
wording unchanged, except for those that a connection reports in a way of its own.

## Contents

* `Socket.ProtocolFault` — violations of the WebSocket protocol;
* `Socket.TargetFault` — targets that cannot be dialled;
* `Socket.Error` — every failure, with its wording.
-/

namespace TextSocket.Socket

/-! ## Protocol violations -/

/-- A violation of the WebSocket protocol, by the peer unless stated otherwise. -/
inductive ProtocolFault where
  /-- The response has no header "Connection: upgrade". -/
  | noConnectionUpgrade
  /-- The response has no header "Upgrade: websocket". -/
  | noUpgradeWebsocket
  /-- The response does not prove that the peer has seen the key. -/
  | acceptMismatch
  /-- The response names a subprotocol, but none was asked for. -/
  | unrequestedSubprotocol
  /-- The response names a subprotocol that was not asked for. -/
  | unknownSubprotocol
  /-- A subprotocol was asked for, but the response names none. -/
  | noSubprotocol
  /-- The response is older than version 1.1. -/
  | oldHttpVersion
  /-- The peer ended its stream within the response. -/
  | handshakeIncomplete
  /-- The response cannot be split into its parts. -/
  | badHead (fault : Http.HeadFault)
  /-- A header that the request needs is absent. -/
  | missingHeader (name : Header.Name)
  /-- A message was written behind a close frame (by this side). -/
  | sendAfterClosing
  /-- A frame came behind a close frame. -/
  | receivedAfterClosing
  /-- A reserved bit is set. -/
  | reservedBits
  /-- A client sent a frame without a mask. -/
  | unmaskedFromClient
  /-- A server sent a frame with a mask. -/
  | maskedFromServer
  /-- A control frame is a fragment. -/
  | fragmentedControl
  /-- A control frame is longer than 125 bytes. -/
  | controlTooBig
  /-- A fragment continues no message. -/
  | unexpectedContinuation
  /-- A new message starts within another one. -/
  | expectedFragment (isText : Bool)
  /-- The stream ended without a close frame. -/
  | resetWithoutClosing
  /-- A frame has an opcode that stands for nothing. -/
  | badOpcode (opcode : Nat)
  /-- A close frame has a payload of one byte. -/
  | badCloseSequence
  deriving DecidableEq

namespace ProtocolFault

/-- The wording of a violation. -/
def message : ProtocolFault → String
  | noConnectionUpgrade => "No \"Connection: upgrade\" header"
  | noUpgradeWebsocket => "No \"Upgrade: websocket\" header"
  | acceptMismatch => "Key mismatch in \"Sec-WebSocket-Accept\" header"
  | unrequestedSubprotocol =>
    "SubProtocol error: Server sent a subprotocol but none was requested"
  | unknownSubprotocol => "SubProtocol error: Server sent an invalid subprotocol"
  | noSubprotocol => "SubProtocol error: Server sent no subprotocol"
  | oldHttpVersion => "HTTP version must be 1.1 or higher"
  | handshakeIncomplete => "Handshake not finished"
  | badHead fault => "httparse error: " ++ fault.message
  | missingHeader name => "Missing, duplicated or incorrect header " ++ name.text
  | sendAfterClosing => "Sending after closing is not allowed"
  | receivedAfterClosing => "Remote sent after having closed"
  | reservedBits => "Reserved bits are non-zero"
  | unmaskedFromClient => "Received an unmasked frame from client"
  | maskedFromServer => "Received a masked frame from server"
  | fragmentedControl => "Fragmented control frame"
  | controlTooBig => "Control frame too big (payload must be 125 bytes or less)"
  | unexpectedContinuation => "Continue frame but nothing to continue"
  | expectedFragment isText =>
    "While waiting for more fragments received: " ++ (if isText then "TEXT" else "BINARY")
  | resetWithoutClosing => "Connection reset without closing handshake"
  | badOpcode opcode => "Encountered invalid opcode: " ++ toString opcode
  | badCloseSequence => "Invalid close sequence"

end ProtocolFault

/-! ## Targets -/

/-- Why a target cannot be dialled. -/
inductive TargetFault where
  /-- The target names no host. -/
  | noHost
  /-- The host of the target is empty. -/
  | emptyHost
  /-- The scheme is neither `ws` nor `wss`. -/
  | unsupportedScheme
  deriving DecidableEq, Repr

namespace TargetFault

/-- The wording of a cause. -/
def message : TargetFault → String
  | noHost => "No host name in the URL"
  | emptyHost => "URL contains empty host name"
  | unsupportedScheme => "URL scheme not supported"

end TargetFault

/-! ## All failures -/

/-- A failure of the socket layer. -/
inductive Error where
  /-- The connection has been closed in order. -/
  | closed
  /-- The connection was closed before. -/
  | alreadyClosed
  /-- The network failed. -/
  | io (error : IoError)
  /-- A message is longer than the limit. -/
  | messageTooLong (size limit : Nat)
  /-- A response has too many header lines. -/
  | tooManyHeaders
  /-- The protocol was violated. -/
  | protocol (fault : ProtocolFault)
  /-- Bytes that should be text are not; the detail says which. -/
  | utf8 (detail : String)
  /-- A response came in suspiciously many or large pieces. -/
  | attack
  /-- The target cannot be dialled. -/
  | target (fault : TargetFault)
  /-- The response has another status than 101. -/
  | badStatus (status : Http.Status)
  /-- A part of a request or response is malformed. -/
  | format (fault : Http.PartFault)
  /-- The stream cannot be encrypted. -/
  | tls (detail : String)
  deriving DecidableEq

namespace Error

/-- The wording of a failure. -/
def message : Error → String
  | closed => "Connection closed normally"
  | alreadyClosed => "Trying to work with closed connection"
  | io error => "IO error: " ++ error.message
  | messageTooLong size limit =>
    "Space limit exceeded: Message too long: " ++ toString size ++ " > " ++ toString limit
  | tooManyHeaders => "Space limit exceeded: Too many headers"
  | protocol fault => "WebSocket protocol error: " ++ fault.message
  | utf8 detail => "UTF-8 encoding error: " ++ detail
  | attack => "Attack attempt detected"
  | target fault => "URL error: " ++ fault.message
  | badStatus status => "HTTP error: " ++ status.describe
  | format fault => "HTTP format error: " ++ fault.message
  | tls detail => "TLS error: " ++ detail

end Error

end TextSocket.Socket
