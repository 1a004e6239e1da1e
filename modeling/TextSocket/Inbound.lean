import TextSocket.Connection.Basic
import TextSocket.Http.Response
import TextSocket.Net.Ipv4
import TextSocket.Upgrade.Admission

/-!
# `TextSocket.Inbound` — requests that come in

A request is read from a stream byte by byte, up to the first blank line, so that whatever follows is left for the
connection. It is then answered: with a text, or by switching protocols, behind which the stream carries a
WebSocket.

## Contents

* `Inbound` — a request with the stream on which it came;
* `Inbound.readHead` — the head of a request among the bytes that have arrived;
* `Inbound.read` — reading a request;
* `Inbound.respond` — answering with a text;
* `Inbound.upgrade` — switching protocols, or refusing to.
-/

namespace TextSocket

/-- A request with the stream on which it came. -/
structure Inbound where
  /-- The request. -/
  request : Http.Request
  /-- Where the peer is. -/
  peer : Net.Endpoint
  /-- The stream. -/
  wire : Net.Wire
  deriving DecidableEq

namespace Inbound

open Net (Attempt Wire)

/-! ## Heads -/

/-- The greatest number of bytes in a head. -/
def headLimit : Nat := 8192

/-- Whether bytes end in a blank line. The bytes are in reverse. -/
def endsInBlankLine : Bytes → Bool
  | 10 :: 13 :: 10 :: 13 :: _ => true
  | _ => false

/-- What the bytes that have arrived amount to. -/
inductive Head where
  /-- A head, and the bytes behind it. -/
  | complete (head rest : Bytes)
  /-- More bytes than a head may have. -/
  | tooLarge (rest : Bytes)
  /-- A part of a head. -/
  | starved
  deriving DecidableEq, Repr

/-- Reads bytes up to a blank line. `taken` has been read before and is in reverse; `size` is its length. -/
def readHeadFrom (taken : Bytes) (size : Nat) (incoming : Bytes) : Head :=
  if endsInBlankLine taken then .complete taken.reverse incoming
  else if headLimit ≤ size then .tooLarge incoming
  else match incoming with
    | [] => .starved
    | b :: rest => readHeadFrom (b :: taken) (size + 1) rest

/-- Reads the head of a request. -/
def readHead (incoming : Bytes) : Head := readHeadFrom [] 0 incoming

/-! ## Reading -/

/-- The time that a peer has for sending the head of its request. -/
def headTimeout : Duration := .ofSeconds 10 0

/-- Reads a request from a stream; it may have to wait for the peer. -/
def read (peer : Net.Endpoint) (wire : Wire) : Attempt Error Inbound :=
  match readHead wire.incoming with
  | .complete head rest =>
    match Http.Request.parse head with
    | .ok (request, _) => .ok ⟨request, peer, wire.take rest⟩
    | .error cause => .error (.protocol cause.message)
  | .tooLarge _ => .error (.protocol Http.RequestFault.tooLarge.message)
  | .starved =>
    match wire.wait.1 with
    | .ok () => .error (.protocol Http.RequestFault.closedEarly.message)
    | .error cause => .error (.io cause)
    | .blocked => .blocked

/-- Reads a request from a stream on which nothing more arrives in time. -/
def readInTime (peer : Net.Endpoint) (wire : Wire) : Except Error Inbound :=
  match read peer wire with
  | .ok inbound => .ok inbound
  | .error cause => .error cause
  | .blocked => .error (.timeout .requestHead headTimeout.millis)

/-! ## Answering -/

/-- Puts bytes on the stream. -/
def put (inbound : Inbound) (bytes : Bytes) : Attempt Error Unit × Inbound :=
  match inbound.wire.write bytes with
  | (.ok n, wire) => (if n = bytes.length then .ok () else .blocked, { inbound with wire })
  | (.error cause, wire) => (.error (.io cause), { inbound with wire })
  | (.blocked, wire) => (.blocked, { inbound with wire })

/-- Answers with a text. -/
def respond (inbound : Inbound) (status : Http.Status) (body : Bytes) : Attempt Error Unit × Inbound :=
  inbound.put (Http.refusal status body)

/-- Answers that the request is refused. It does not matter whether the peer gets the answer. -/
def refuse (inbound : Inbound) (refusal : Upgrade.Refusal) : Inbound :=
  (inbound.respond .serviceUnavailable refusal.body).2

/-! ## Switching protocols -/

/-- What an upgrade comes to. -/
inductive Upgraded where
  /-- A connection. -/
  | connected (connection : Connection)
  /-- A failure, and the stream behind it. -/
  | refused (cause : Error) (wire : Wire)

/-- Switches protocols, if the request asks for it as it should. The connection gets the stream with everything
    that stands behind the head of the request. The peer is expected to have room for the answer; otherwise the answer
    counts as one that cannot be written. -/
def upgrade (inbound : Inbound) (config : Config) (id : ConnectionId) : Upgraded :=
  if inbound.request.method ≠ .get then .refused .methodNotAllowed (inbound.refuse .method).wire
  else match Upgrade.judge inbound.request.fields with
    | .error refusal => .refused .upgradeFailed (inbound.refuse refusal).wire
    | .ok accept =>
      match inbound.put (Http.switching accept) with
      | (.ok (), inbound) =>
        .connected (.ofSocket id config
          (.ofWire .server inbound.wire config.bufferSize.toNat fun _ => ⟨0, 0, 0, 0⟩))
      | (_, inbound) => .refused .upgradeFailed (inbound.refuse .unwritten).wire

end Inbound

end TextSocket
