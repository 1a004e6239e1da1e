import TextSocket.Connection.Basic
import TextSocket.Http.Target
import TextSocket.Net.Host
import TextSocket.Upgrade.Answer
import TextSocket.Url.Parser

/-!
# `TextSocket.Dial` — connecting to a server

A dial begins with a target in text. The target is brought into its normal form, the host is dialled, the request
is sent, and when the response is there and accepts the request, the stream carries a WebSocket. A target that
cannot be used is found out as late as possible: its scheme matters only when the host has answered.

## Contents

* `Dial.offer` — the request for a target;
* `Dial.send`, `Dial.start` — dialling and sending the request;
* `Dial.complete` — reading and checking the response.
-/

namespace TextSocket.Dial

open Net (Attempt Wire)

/-- The request for a target, with a key that stands for `nonce`. -/
def offer (config : Config) (target : String) (nonce : Bytes) : Except Error Upgrade.Offer :=
  match Url.parse target with
  | .error fault => .error (.url fault)
  | .ok url =>
    match Http.Target.parse (Bytes.ofText url.text) with
    | .error cause => .error (.socket (.format cause))
    | .ok target => (Upgrade.Offer.make target nonce config.headers).mapError Error.socket

/-- A dial that waits for the response. -/
structure Waiting where
  /-- What the response has to prove. -/
  expected : Upgrade.Offer.Expectation
  /-- The stream, with the request on it. -/
  wire : Wire
  deriving DecidableEq

/-- Dials the host of an offer. -/
def reach (host : Net.Host) (offer : Upgrade.Offer) : Except Socket.Error Unit := do
  let (name, port) ← offer.endpoint
  let address ← (host.resolve name.latin1).mapError Socket.Error.io
  (host.dial ⟨address, port⟩).mapError Socket.Error.io

/-- Sends a request over a stream that takes it. What cannot be sent leaves the stream as it is. -/
def send (offer : Upgrade.Offer) (wire : Wire) : Except Socket.Error Upgrade.Offer.Expectation × Wire :=
  match offer.mode with
  | .error cause => (.error cause, wire)
  | .ok .encrypted => (.error (.tls "no encrypted streams"), wire)
  | .ok .plain =>
    match offer.render with
    | .error cause => (.error cause, wire)
    | .ok (head, expected) => (.ok expected, (wire.write head).2)

/-- Waits for the response, if the request has been sent. -/
def waitFor : Except Socket.Error Upgrade.Offer.Expectation × Wire → Except Error Waiting
  | (.ok expected, wire) => .ok ⟨expected, wire⟩
  | (.error cause, _) => .error (.socket cause)

/-- Dials a target and sends the request over a new stream. -/
def start (host : Net.Host) (config : Config) (target : String) (nonce : Bytes) :
    Except Error Waiting := do
  let offer ← offer config target nonce
  (reach host offer).mapError Error.socket
  waitFor (send offer .fresh)

/-- The size beyond which a dialled socket puts its outbox on the stream at once. -/
def threshold : Nat := 128 * 1024

/-- Reads and checks the response; it may have to wait for the peer. The connection gets everything that stands
    behind the response. -/
def complete (waiting : Waiting) (config : Config) (id : ConnectionId) (keys : Nat → MaskKey) :
    Attempt Error Connection :=
  match Upgrade.readAnswer waiting.wire with
  | .blocked => .blocked
  | .error cause => .error (.socket cause)
  | .ok (response, wire) =>
    match Upgrade.check waiting.expected response with
    | .error cause => .error (.socket cause)
    | .ok () => .ok (.ofSocket id config (.ofWire .client wire threshold keys))

end TextSocket.Dial
