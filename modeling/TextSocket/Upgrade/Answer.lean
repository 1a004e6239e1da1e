import TextSocket.Http.Response
import TextSocket.Net.Wire
import TextSocket.Upgrade.Offer

/-!
# `TextSocket.Upgrade.Answer` — the response that a client waits for

A client reads the response in packets and tries after each whether the head is complete. A head that comes in
too many, too small or too large packets is taken for an attack. The response is accepted if it switches protocols
and proves what the request asked for.

## Contents

* `Upgrade.Packets`, `Packets.pass` — the packets so far;
* `Upgrade.readAnswer` — reading the head;
* `Upgrade.check` — the checks, in their order.
-/

namespace TextSocket.Upgrade

/-! ## Packets -/

/-- The greatest size of a packet. -/
def packetSize : Nat := 4096

/-- The packets so far. -/
structure Packets where
  /-- Their number. -/
  count : Nat
  /-- Their bytes. -/
  bytes : Nat
  deriving DecidableEq, Repr

/-- No packets. -/
def Packets.none : Packets := ⟨0, 0⟩

/-- One more packet; fails if the packets look like an attack. -/
def Packets.pass (packets : Packets) (size : Nat) : Except Socket.Error Packets :=
  let packets : Packets := ⟨packets.count + 1, packets.bytes + size⟩
  if 65536 < packets.bytes || 512 < packets.count ||
      (64 < packets.count && packets.bytes < packets.count * 128) then .error .attack
  else .ok packets

/-! ## Reading -/

/-- The failure that a malformed head amounts to. -/
def headFailure : Http.HeadFault → Socket.Error
  | .tooManyHeaders => .tooManyHeaders
  | cause => .protocol (.badHead cause)

/-- What reading a response comes to. -/
inductive Reading where
  /-- The head, and the bytes behind it. -/
  | complete (response : Http.Response) (rest : Bytes)
  /-- The response is not acceptable. -/
  | failed (cause : Socket.Error)
  /-- More bytes are needed. -/
  | starved
  deriving DecidableEq

/-- Reads packets from the bytes that have arrived; `taken` has been read before. -/
def readPackets : Nat → Packets → Bytes → Bytes → Reading
  | 0, _, _, _ => .starved
  | fuel + 1, packets, taken, incoming =>
    if incoming.isEmpty then .starved
    else
      let packet := incoming.take packetSize
      match packets.pass packet.length with
      | .error cause => .failed cause
      | .ok packets =>
        match Http.Response.parse (taken ++ packet) with
        | .found response rest => .complete response (rest ++ incoming.drop packetSize)
        | .fault cause => .failed (headFailure cause)
        | .unfinished => readPackets fuel packets (taken ++ packet) (incoming.drop packetSize)

/-- Reads the head of the response from a stream. -/
def readAnswer (wire : Net.Wire) : Net.Attempt Socket.Error (Http.Response × Net.Wire) :=
  match readPackets (wire.incoming.length + 1) .none [] wire.incoming with
  | .complete response rest => .ok (response, wire.take rest)
  | .failed cause => .error cause
  | .starved =>
    match wire.wait.1 with
    | .blocked => .blocked
    | .ok () => .error (.protocol .handshakeIncomplete)
    | .error cause => .error (.io cause)

/-! ## Checking -/

/-- The status and the header fields of a response. -/
def partsOf (response : Http.Response) : Except Socket.Error (Http.Status × Header.Fields) :=
  if response.version = 0 then .error (.protocol .oldHttpVersion)
  else match Http.fieldsOfLines response.lines with
    | .error cause => .error (.format cause)
    | .ok fields =>
      match Http.Status.ofCode? response.code with
      | none => .error (.format .statusCode)
      | some status => .ok (status, fields)

/-- Whether the first value of a name is a token, in any case. -/
def hasToken (fields : Header.Fields) (name : Header.Name) (token : String) : Bool :=
  (fields.get? name).any (isToken (Bytes.ofText token))

/-- Checks the subprotocol of a response. -/
def checkSubprotocol (asked : Option (List Bytes)) (named : Option Header.Value) :
    Except Socket.Error Unit :=
  match asked, named with
  | none, none => .ok ()
  | some _, none => .error (.protocol .noSubprotocol)
  | none, some _ => .error (.protocol .unrequestedSubprotocol)
  | some asked, some named =>
    if !named.isPrintable then .error (.utf8 Offer.unprintable)
    else if asked.contains named.bytes then .ok ()
    else .error (.protocol .unknownSubprotocol)

/-- Checks that a response accepts the offer. -/
def check (expected : Offer.Expectation) (response : Http.Response) : Except Socket.Error Unit := do
  let (status, fields) ← partsOf response
  if status.code ≠ Http.Status.switchingProtocols.code then .error (.badStatus status)
  else if !hasToken fields .upgrade "websocket" then .error (.protocol .noUpgradeWebsocket)
  else if !hasToken fields .connection "upgrade" then .error (.protocol .noConnectionUpgrade)
  else if (fields.get? .socketAccept).map Header.Value.bytes ≠ some expected.accept then
    .error (.protocol .acceptMismatch)
  else checkSubprotocol expected.subprotocols (fields.get? .socketProtocol)

end TextSocket.Upgrade
