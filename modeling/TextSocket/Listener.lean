import TextSocket.Error
import TextSocket.Net.Host

/-!
# `TextSocket.Listener` — waiting for peers

A listener holds an endpoint of the host on which peers may dial.

## Contents

* `Listener` with `Listener.bind`, `Listener.port` and `Listener.url`.
-/

namespace TextSocket

/-- A listener. -/
structure Listener where
  /-- Where it listens. -/
  endpoint : Net.Endpoint
  deriving DecidableEq, Repr

namespace Listener

/-- Begins to listen at an address. Port 0 stands for any port that is free. -/
def bind (host : Net.Host) (address : Net.Ipv4) (port : UInt16) : Except Error (Listener × Net.Host) :=
  match host.bind address port with
  | .ok (endpoint, host) => .ok (⟨endpoint⟩, host)
  | .error e => .error (.io e)

/-- The port at which it listens. -/
def port (listener : Listener) : UInt16 := listener.endpoint.port

/-- The URL at which peers may dial. -/
def url (listener : Listener) : String := "ws://" ++ listener.endpoint.text

end Listener

end TextSocket
