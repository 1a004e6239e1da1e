import TextSocket.Connection.Step

/-!
# `TextSocket.Connection.Session` — a connection, its peer and a clock

A session follows a connection through time. Calls take steps until each has to wait; then the peer may act, a new
call may be made, or the clock may go on to the next deadline. Nothing happens between two deadlines, so the clock
never stops anywhere else.

## Contents

* `Session` with `Session.send`, `Session.finish`, `Session.reset` — what the peer does;
* `Session.make`, `Session.await` — making a call, and waiting for its result;
* `Session.receive`, `Session.unreceived` — the frames that the peer gets.
-/

namespace TextSocket

/-- A connection with its peer and a clock. -/
structure Session where
  /-- The connection. -/
  connection : Connection
  /-- The time in nanoseconds. -/
  now : Nat
  /-- The number of calls that have been made. -/
  made : Nat
  /-- The number of bytes that the peer has taken. -/
  taken : Nat

namespace Session

/-- A session in which nothing has happened. -/
def start (connection : Connection) : Session := ⟨connection, 0, 0, connection.socket.wire.outgoing.length⟩

/-! ## Steps -/

/-- The calls that are not over. -/
def pending (s : Session) : List Call.Ongoing := s.connection.calls.filter fun o => !o.stage.isOver

/-- One step of every call that is not over, in the order in which they were made. -/
def pass (s : Session) : Session :=
  { s with connection := s.pending.foldl (fun c o => c.step s.now o.number) s.connection }

/-- `n` rounds of steps. -/
def rounds : Nat → Session → Session
  | 0, s => s
  | n + 1, s => rounds n s.pass

/-- The greatest number of steps that a call takes without waiting. -/
def stepsPerCall : Nat := 6

/-- Lets every call go on until it has to wait. In each round at least one call comes a stage further. -/
def settle (s : Session) : Session := s.rounds (stepsPerCall * (s.pending.length + 1))

/-- The next deadline. -/
def nextDeadline? (s : Session) : Option Nat :=
  (s.pending.filterMap fun o => o.stage.deadline?).min?

/-- Lets the clock go on to a time. -/
def goTo (s : Session) (time : Nat) : Session := { s with now := max s.now time }.settle

/-! ## The peer -/

/-- Lets something happen to the stream. -/
def onWire (s : Session) (event : Net.Wire → Net.Wire) : Session :=
  let socket := s.connection.socket
  { s with connection := { s.connection with socket := { socket with wire := event socket.wire } } }.settle

/-- The peer sends bytes. -/
def send (s : Session) (bytes : Bytes) : Session := s.onWire (·.deliver bytes)

/-- The peer ends its stream. -/
def finish (s : Session) : Session := s.onWire Net.Wire.finish

/-- The peer resets the stream. -/
def reset (s : Session) : Session := s.onWire Net.Wire.reset

/-! ## Calls -/

/-- Makes a call and lets it go on until it has to wait; answers its number. -/
def make (s : Session) (call : Call) : Nat × Session :=
  (s.made, { s with connection := s.connection.enter s.made call, made := s.made + 1 }.settle)

/-- Waits for the result of a call through at most `fuel` deadlines; `none` if it never comes. -/
def awaitWith : Nat → Session → Nat → Option Call.Outcome × Session
  | 0, s, number => (s.connection.outcome? number, s)
  | fuel + 1, s, number =>
    match s.connection.outcome? number with
    | some outcome => (some outcome, s)
    | none =>
      match s.nextDeadline? with
      | none => (none, s)
      | some time => awaitWith fuel (s.goTo time) number

/-- Waits for the result of a call. No call has more than two deadlines. -/
def await (s : Session) (number : Nat) : Option Call.Outcome × Session :=
  s.awaitWith (2 * s.pending.length + 2) number

/-! ## What the peer gets -/

/-- What the peer gets when it waits for a frame. -/
inductive Received where
  /-- A frame. -/
  | frame (frame : Frame)
  /-- No frame. -/
  | nothing
  /-- The end of the stream. -/
  | ended
  deriving DecidableEq

/-- The bytes that the peer has not taken. -/
def untaken (s : Session) : Bytes := s.connection.socket.wire.outgoing.drop s.taken

/-- Takes a frame, if a whole one is there. -/
def take? (s : Session) : Option (Frame × Session) :=
  match Frame.decode none s.untaken with
  | .frame frame rest => some (frame, { s with taken := s.taken + (s.untaken.length - rest.length) })
  | _ => none

/-- Waits for a frame until `limit`, through at most `fuel` deadlines. -/
def receiveBy : Nat → Session → Nat → Received × Session
  | fuel, s, limit =>
    match s.take? with
    | some (frame, s) => (.frame frame, s)
    | none =>
      if s.connection.socket.wire.released then (.ended, s)
      else match fuel, s.nextDeadline? with
        | fuel + 1, some time =>
          if time ≤ limit then receiveBy fuel (s.goTo time) limit else (.nothing, s.goTo limit)
        | _, _ => (.nothing, s.goTo limit)

/-- Waits for a frame for some time. -/
def receive (s : Session) (patience : Duration) : Received × Session :=
  s.receiveBy (2 * s.pending.length) (s.now + patience.nanos)

/-- Takes all whole frames; at most `fuel`. -/
def takeAll : Nat → Session → List Frame × Session
  | 0, s => ([], s)
  | fuel + 1, s =>
    match s.take? with
    | some (frame, s) =>
      let (frames, s) := takeAll fuel s
      (frame :: frames, s)
    | none => ([], s)

/-- The frames that the peer has not taken, and the number of bytes behind the last of them. -/
def unreceived (s : Session) : List Frame × Nat :=
  let (frames, s) := s.takeAll s.untaken.length
  (frames, s.untaken.length)

end Session

end TextSocket
