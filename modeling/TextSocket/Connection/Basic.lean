import TextSocket.Config
import TextSocket.ConnectionId
import TextSocket.Socket.Halves

/-!
# `TextSocket.Connection` — a connection and the calls on it

A connection carries texts over a socket. Any number of calls may be in progress on it: reads wait for each other in
one queue and writes in another, and whoever stands at the head of a queue has that half of the socket to itself.
A read or a write that does not come to an end by its deadline is given up and leaves its queue.

A connection is closed once. The call that does it sets a flag, which turns away later calls, and then a signal,
which ends the calls in progress; it takes the writing half away when it is free, sends a close frame, and takes the
reading half away. With both halves gone the stream is left.

## Contents

* `Connection.Queue` — who has a half of the socket, and who waits for it;
* `Call`, `Call.Outcome`, `Call.Stage` — a call, its result, and how far it has come;
* `Connection` — the state that the calls share, with the calls themselves.
-/

namespace TextSocket

/-! ## Calls -/

/-- A call on a connection. -/
inductive Call where
  /-- Reads a text. -/
  | read
  /-- Writes a text. -/
  | write (text : String)
  /-- Closes the connection. -/
  | close
  deriving DecidableEq, Repr

namespace Call

/-- The result of a call. -/
inductive Outcome where
  /-- A text was read. -/
  | text (text : String)
  /-- The call has done its work. -/
  | done
  /-- The call has failed. -/
  | failed (cause : Error)

/-- How far a call has come. -/
inductive Stage where
  /-- It has done nothing yet. -/
  | begun
  /-- A read or a write has found the flag clear. -/
  | tested (deadline : Nat)
  /-- A read or a write listens for the signal. It waits for its half of the socket, or has it. -/
  | waiting (deadline : Nat)
  /-- A write has put its text into the slot of the writing half. -/
  | flushing (deadline : Nat)
  /-- The call has set the flag. -/
  | flagged
  /-- The call has set the signal, and waits for the writing half. -/
  | signalled
  /-- The call has taken the writing half and sends a close frame. -/
  | closing (slot : Socket.Slot) (deadline : Nat)
  /-- The call has let the writing half go, and waits for the reading half. -/
  | leaving
  /-- The call is over. -/
  | finished (outcome : Outcome)

/-- Whether a call is over. -/
def Stage.isOver : Stage → Bool
  | finished _ => true
  | _ => false

/-- When a call is given up, if it is not over by then. -/
def Stage.deadline? : Stage → Option Nat
  | tested deadline | waiting deadline | flushing deadline | closing _ deadline => some deadline
  | _ => none

/-- A call in progress, with the number by which it is known. -/
structure Ongoing where
  /-- The number. -/
  number : Nat
  /-- The call. -/
  call : Call
  /-- How far it has come. -/
  stage : Stage

end Call

/-! ## Queues -/

/-- The calls that want a half of the socket, by number. The first one has it. -/
abbrev Connection.Queue := List Nat

namespace Connection.Queue

/-- Joins a queue at its end, unless it is joined already. -/
def join (queue : Queue) (number : Nat) : Queue :=
  if queue.contains number then queue else queue ++ [number]

/-- Leaves a queue. -/
def leave (queue : Queue) (number : Nat) : Queue := queue.filter (· != number)

/-- Whether a call has what is queued for. -/
def serves (queue : Queue) (number : Nat) : Bool := queue.head? == some number

end Connection.Queue

/-! ## Connections -/

/-- A connection with the calls on it. -/
structure Connection where
  /-- Its identifier. -/
  id : ConnectionId
  /-- Its configuration. -/
  config : Config
  /-- The flag that turns away later calls. -/
  closed : Bool
  /-- The signal that ends the calls in progress. -/
  signal : Bool
  /-- The socket. -/
  socket : Socket
  /-- The writing half; `none` once it is taken away. -/
  writer : Option Socket.Slot
  /-- Whether the reading half is there. -/
  reader : Bool
  /-- The calls that want the writing half. -/
  writers : Connection.Queue
  /-- The calls that want the reading half. -/
  readers : Connection.Queue
  /-- The calls in the order in which they were made. -/
  calls : List Call.Ongoing

namespace Connection

/-- A connection over a socket. -/
def ofSocket (id : ConnectionId) (config : Config) (socket : Socket) : Connection :=
  { id, config, socket
    closed := false
    signal := false
    writer := some none
    reader := true
    writers := []
    readers := []
    calls := [] }

/-- The time between heartbeats, and the time that a heartbeat waits. The caller sends them. -/
def pingTimes (c : Connection) : Duration × Duration := (c.config.pingInterval, c.config.pingTimeout)

/-- A description for people, with the identifier written as `id`. -/
def describeAs (c : Connection) (id : String) : String :=
  "WebsocketConnection \x7b id: " ++ id ++ ", closed: " ++ (if c.closed then "true" else "false") ++
    ", .. \x7d"

/-- Makes a call under a new number. -/
def enter (c : Connection) (number : Nat) (call : Call) : Connection :=
  { c with calls := c.calls ++ [⟨number, call, .begun⟩] }

/-- The call with a number. -/
def call? (c : Connection) (number : Nat) : Option Call.Ongoing :=
  c.calls.find? (·.number == number)

/-- Notes how far a call has come. -/
def setStage (c : Connection) (number : Nat) (stage : Call.Stage) : Connection :=
  { c with calls := c.calls.map fun o => if o.number = number then { o with stage } else o }

/-- The result of a call, if it is over. -/
def outcome? (c : Connection) (number : Nat) : Option Call.Outcome :=
  match (c.call? number).map Call.Ongoing.stage with
  | some (.finished outcome) => some outcome
  | _ => none

end Connection

end TextSocket
