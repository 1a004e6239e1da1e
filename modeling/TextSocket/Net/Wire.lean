import TextSocket.Bytes
import TextSocket.IoError

/-!
# `TextSocket.Net.Wire` — one end of a byte stream

A stream carries bytes both ways between two ends. This is what one end knows of it: the bytes that have arrived
and are not yet taken, whether more can come, every byte that it has put on the stream, and how much more the
stream takes before the peer makes room. An end never waits by itself: a call that cannot go on says so, and is
made again later.

A peer that resets the stream leaves what has arrived. Behind that, one call fails with the reset, and from then
on the stream is at its end for reading and broken for writing. A reset that comes behind the end of the peer's
stream shows in writing only.

## Contents

* `Net.Attempt` — the result of a call that may have to wait;
* `Net.Ending`, `Net.Wire` — one end of a stream;
* `Wire.write`, `Wire.wait`, `Wire.take` — what this end can do;
* `Wire.deliver`, `Wire.finish`, `Wire.reset`, `Wire.widen` — what the peer can do.
-/

namespace TextSocket.Net

/-! ## Attempts -/

/-- The result of a call that may have to wait. -/
inductive Attempt (ε α : Type) where
  /-- The call is done. -/
  | ok (value : α)
  /-- The call has failed. -/
  | error (cause : ε)
  /-- The call cannot go on now. -/
  | blocked
  deriving DecidableEq, Repr

namespace Attempt

/-- Goes on with the value of a call that is done. -/
def andThen {ε α β : Type} (attempt : Attempt ε α) (next : α → Attempt ε β) : Attempt ε β :=
  match attempt with
  | ok value => next value
  | error cause => error cause
  | blocked => blocked

/-- Changes the cause of a failure. -/
def mapError {ε δ α : Type} (change : ε → δ) : Attempt ε α → Attempt δ α
  | ok value => ok value
  | error cause => error (change cause)
  | blocked => blocked

/-- A result that does not wait. -/
def ofExcept {ε α : Type} : Except ε α → Attempt ε α
  | .ok value => ok value
  | .error cause => error cause

end Attempt

/-! ## Wires -/

/-- Whether more bytes can come from the peer. -/
inductive Ending where
  /-- More can come. -/
  | open
  /-- The peer has ended its stream, but still takes bytes. -/
  | ended
  /-- The peer has reset the stream, and nobody has been told. -/
  | reset
  /-- The stream is dead, and this is known. -/
  | dead
  deriving DecidableEq, Repr

/-- One end of a byte stream. -/
structure Wire where
  /-- The bytes that have arrived and are not yet taken. -/
  incoming : Bytes
  /-- Whether more bytes can come. -/
  ending : Ending
  /-- Every byte that this end has put on the stream. -/
  outgoing : Bytes
  /-- How many more bytes the stream takes now; `none` if there is no limit. -/
  room : Option Nat
  /-- Whether this end has given up writing. -/
  shut : Bool
  /-- Whether this end has left the stream. -/
  released : Bool
  deriving DecidableEq, Repr

namespace Wire

/-- A stream on which nothing has happened. -/
def fresh : Wire := ⟨[], .open, [], none, false, false⟩

/-! ## This end -/

/-- Puts bytes on the stream, as many as there is room for; answers how many these are. -/
def write (wire : Wire) (bytes : Bytes) : Attempt IoError Nat × Wire :=
  match wire.ending with
  | .reset => (.error .connectionReset, { wire with ending := .dead })
  | .dead => (.error .brokenPipe, wire)
  | .open | .ended =>
    if wire.shut then (.error .brokenPipe, wire)
    else match wire.room with
      | none => (.ok bytes.length, { wire with outgoing := wire.outgoing ++ bytes })
      | some room =>
        if bytes.isEmpty then (.ok 0, wire)
        else if room = 0 then (.blocked, wire)
        else
          let n := min room bytes.length
          (.ok n, { wire with outgoing := wire.outgoing ++ bytes.take n, room := some (room - n) })

/-- What a read comes to when the bytes that have arrived do not suffice. Done means that the stream is at its
    end. -/
def wait (wire : Wire) : Attempt IoError Unit × Wire :=
  match wire.ending with
  | .open => (.blocked, wire)
  | .ended | .dead => (.ok (), wire)
  | .reset => (.error .connectionReset, { wire with ending := .dead })

/-- Takes bytes that have arrived; `rest` is what remains of them. -/
def take (wire : Wire) (rest : Bytes) : Wire := { wire with incoming := rest }

/-- Leaves the stream. -/
def release (wire : Wire) : Wire := { wire with released := true }

/-! ## The peer -/

/-- Bytes arrive. -/
def deliver (wire : Wire) (bytes : Bytes) : Wire :=
  match wire.ending with
  | .open => { wire with incoming := wire.incoming ++ bytes }
  | _ => wire

/-- The peer ends its stream. -/
def finish (wire : Wire) : Wire :=
  match wire.ending with
  | .open => { wire with ending := .ended }
  | _ => wire

/-- The peer resets the stream. -/
def reset (wire : Wire) : Wire :=
  match wire.ending with
  | .open => { wire with ending := .reset }
  | .ended => { wire with ending := .dead }
  | _ => wire

/-- The peer makes room for further bytes. -/
def widen (wire : Wire) (n : Nat) : Wire := { wire with room := wire.room.map (· + n) }

end Wire

end TextSocket.Net
