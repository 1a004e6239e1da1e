/-!
# `TextSocket.IoError` — failures of the network

The operating system reports a failed call by a number; each number has a fixed wording.

## Contents

* `IoError` — the failures that a stream or a listener can meet;
* `IoError.message` — their wording.
-/

namespace TextSocket

/-- A failure of the network. -/
inductive IoError where
  /-- The stream can no longer be written to. -/
  | brokenPipe
  /-- A listener already has the address. -/
  | addressInUse
  /-- The host has no such address. -/
  | addressNotAvailable
  /-- No route leads to the address. -/
  | networkUnreachable
  /-- The peer has reset the connection. -/
  | connectionReset
  /-- Nobody listens at the address. -/
  | connectionRefused
  /-- The name of a host stands for no address. -/
  | unknownHost
  /-- Any other failure, in its own words. -/
  | other (text : String)
  deriving DecidableEq, Repr

namespace IoError

/-- The wording that the operating system gives to one of its error numbers. -/
def system (text : String) (number : Nat) : String :=
  text ++ " (os error " ++ toString number ++ ")"

/-- The wording of a failure. -/
def message : IoError → String
  | brokenPipe => system "Broken pipe" 32
  | addressInUse => system "Address already in use" 98
  | addressNotAvailable => system "Cannot assign requested address" 99
  | networkUnreachable => system "Network is unreachable" 101
  | connectionReset => system "Connection reset by peer" 104
  | connectionRefused => system "Connection refused" 111
  | unknownHost => "failed to lookup address information: Name or service not known"
  | other text => text

end IoError

end TextSocket
