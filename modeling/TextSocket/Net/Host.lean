import TextSocket.IoError
import TextSocket.Net.Ipv4

/-!
# `TextSocket.Net.Host` — the network of a host, as far as listening and dialling go

What a listener and a dial can do depends on the host that they run on: which addresses it has, and what its
network carries. Two kinds of hosts are told apart. A host with a loopback interface has the addresses of that
interface and carries streams between them. A detached host lends any address to a listener, since no
interface could object, but its network carries nothing, not even to the host itself.

## Contents

* `Net.Reach`, `Net.Host` — a host and the endpoints on which it listens;
* `Host.bind`, `Host.resolve`, `Host.dial` — listening, finding addresses and dialling.
-/

namespace TextSocket.Net

/-- How far the network of a host carries. -/
inductive Reach where
  /-- Between the addresses of the host itself. -/
  | loopback
  /-- Nowhere. -/
  | nowhere
  deriving DecidableEq, Repr

/-- A host. -/
structure Host where
  /-- How far its network carries. -/
  reach : Reach
  /-- The endpoints on which somebody listens. -/
  listening : List Endpoint
  deriving Repr

namespace Host

/-- A host with a loopback interface on which nobody listens. -/
def loopback : Host := ⟨.loopback, []⟩

/-- A host whose network carries nothing. -/
def detached : Host := ⟨.nowhere, []⟩

/-- Whether a listener may have an address. -/
def owns (host : Host) (address : Ipv4) : Bool :=
  match host.reach with
  | .nowhere => true
  | .loopback => address.isLoopback || address == .any

/-- Whether two listeners would be in each other's way. -/
def clash (x y : Endpoint) : Bool :=
  x.port == y.port && (x.address == y.address || x.address == .any || y.address == .any)

/-- The first port from which a free one is sought. -/
def firstFreePort : Nat := 32768

/-- A port that no listener has. -/
def freePort (host : Host) : UInt16 :=
  let used := host.listening.map Endpoint.port
  let candidates := (List.range (host.listening.length + 1)).map fun i => UInt16.ofNat (firstFreePort + i)
  (candidates.find? fun port => !used.contains port).getD (UInt16.ofNat firstFreePort)

/-- Begins to listen. Port 0 stands for any port that is free. -/
def bind (host : Host) (address : Ipv4) (port : UInt16) : Except IoError (Endpoint × Host) :=
  if host.owns address then
    let endpoint : Endpoint := ⟨address, if port = 0 then host.freePort else port⟩
    if host.listening.any (clash endpoint) then .error .addressInUse
    else .ok (endpoint, { host with listening := endpoint :: host.listening })
  else .error .addressNotAvailable

/-- The address that a name stands for. A host knows no names but its own. -/
def resolve (_ : Host) (name : String) : Except IoError Ipv4 :=
  match Ipv4.parse? name with
  | some address => .ok address
  | none => if name == "localhost" then .ok .localhost else .error .unknownHost

/-- Dials an endpoint. The dial succeeds if somebody listens there. -/
def dial (host : Host) (endpoint : Endpoint) : Except IoError Unit :=
  match host.reach with
  | .nowhere => .error .networkUnreachable
  | .loopback =>
    let target : Endpoint :=
      if endpoint.address = .any then { endpoint with address := .localhost } else endpoint
    if !target.address.isLoopback || target.address == ⟨127, 0, 0, 0⟩ then .error .networkUnreachable
    else if host.listening.any (clash target) then .ok ()
    else .error .connectionRefused

end Host

end TextSocket.Net
