import TextSocket.Connection.Basic

/-!
# `TextSocket.Connection.Step` — one step of one call

A call comes to its end in steps. Between two steps of a call, any other call may take steps of its own; a step
itself is not divided. A step of a call that waits looks first for the signal, then for its work, and last at the
clock, so that a message that has arrived is not lost to a deadline that has passed, and a closed connection shows
at once.

## Contents

* `Connection.nextText` — the next text among the messages of a socket;
* `Connection.await` — waiting, as long as there is time;
* `Connection.pollRead`, `pollWrite`, `pollClose` — the steps of calls that wait;
* `Connection.step` — one step of any call.
-/

namespace TextSocket.Connection

open Net (Attempt)

/-! ## Texts -/

/-- What a failure of the socket means to a reader. A message that cannot be decoded has a failure of its own. -/
def readFailure : Socket.Error → Error
  | .utf8 _ | .messageTooLong _ _ | .tooManyHeaders => .badBuffer
  | .closed | .alreadyClosed => .connectionClosed
  | cause => .socket cause

/-- What a message means to a reader; pings and pongs mean nothing. -/
def readMessage? : Socket.Message → Option (Except Error String)
  | .text text => some (if text.isEmpty then .error .emptyMessage else .ok text)
  | .binary _ => some (.error .binaryMessage)
  | .close _ => some (.error .connectionClosed)
  | .ping _ | .pong _ => none

/-- Takes messages until one means something to a reader; `fuel` messages at most. -/
def nextTextWith : Nat → Socket → Attempt Error String × Socket
  | 0, s => (.blocked, s)
  | fuel + 1, s =>
    match s.next with
    | (.blocked, s) => (.blocked, s)
    | (.error cause, s) => (.error (readFailure cause), s)
    | (.ok none, s) => (.error .connectionClosed, s)
    | (.ok (some message), s) =>
      match readMessage? message with
      | some result => (.ofExcept result, s)
      | none => nextTextWith fuel s

/-- Takes messages until one means something to a reader. Every message has at least two bytes, and one call
    follows the last message. -/
def nextText (s : Socket) : Attempt Error String × Socket :=
  nextTextWith (s.wire.incoming.length + 1) s

/-! ## Ends of calls -/

/-- Ends a call. It leaves the queues. -/
def conclude (c : Connection) (number : Nat) (outcome : Call.Outcome) : Connection :=
  { c with writers := c.writers.leave number, readers := c.readers.leave number }.setStage number
    (.finished outcome)

/-- Ends a call that has failed. -/
def fail (c : Connection) (number : Nat) (cause : Error) : Connection := c.conclude number (.failed cause)

/-- Leaves a call that has to wait where it is, or gives it up when its deadline has passed. -/
def await (c : Connection) (now number deadline : Nat) (cause : Error) : Connection :=
  if deadline ≤ now then c.fail number cause else c

/-! ## Reading -/

/-- Why a read is given up. -/
def readTimeout (c : Connection) : Error := .timeout .read c.config.receiveTimeout.millis

/-- A step of a read that waits. -/
def pollRead (c : Connection) (now number deadline : Nat) : Connection :=
  if c.signal then c.fail number .connectionClosed
  else
    let c := { c with readers := c.readers.join number }
    if c.readers.serves number then
      if c.reader then
        match nextText c.socket with
        | (.ok text, socket) => { c with socket }.conclude number (.text text)
        | (.error cause, socket) => { c with socket }.fail number cause
        | (.blocked, socket) => { c with socket }.await now number deadline c.readTimeout
      else c.fail number .connectionClosed
    else c.await now number deadline c.readTimeout

/-! ## Writing -/

/-- Why a write is given up. -/
def writeTimeout (c : Connection) : Error := .timeout .write c.config.sendTimeout.millis

/-- Puts everything on the stream for a write. -/
def flushWrite (c : Connection) (now number deadline : Nat) (slot : Socket.Slot) : Connection :=
  match slot.flush c.socket with
  | (.ok (), slot, socket) => { c with socket, writer := some slot }.conclude number .done
  | (.error cause, slot, socket) => { c with socket, writer := some slot }.fail number (.socket cause)
  | (.blocked, slot, socket) =>
    { c with socket, writer := some slot }.setStage number (.flushing deadline)
      |>.await now number deadline c.writeTimeout

/-- A step of a write that waits, and whose text is not yet in the slot. -/
def pollWrite (c : Connection) (now number deadline : Nat) (text : String) : Connection :=
  if c.signal then c.fail number .connectionClosed
  else
    let c := { c with writers := c.writers.join number }
    if c.writers.serves number then
      match c.writer with
      | none => c.fail number .connectionClosed
      | some slot =>
        match slot.feed c.socket text with
        | (.ok (), slot, socket) => { c with socket }.flushWrite now number deadline slot
        | (.error cause, slot, socket) => { c with socket, writer := some slot }.fail number (.socket cause)
        | (.blocked, slot, socket) =>
          { c with socket, writer := some slot }.await now number deadline c.writeTimeout
    else c.await now number deadline c.writeTimeout

/-- A step of a write whose text has been put into the slot. -/
def pollFlush (c : Connection) (now number deadline : Nat) : Connection :=
  if c.signal then c.fail number .connectionClosed
  else match c.writer with
    | none => c.fail number .connectionClosed
    | some slot => c.flushWrite now number deadline slot

/-! ## Closing -/

/-- A step of a call that sends a close frame. Whether it succeeds does not matter; the writing half is let go. -/
def pollClose (c : Connection) (now number deadline : Nat) (slot : Socket.Slot) : Connection :=
  match slot.close c.socket with
  | (.blocked, slot, socket) =>
    let c := { c with socket }
    c.setStage number (if deadline ≤ now then .leaving else .closing slot deadline)
  | (_, _, socket) => { c with socket }.setStage number .leaving

/-- Takes the writing half, when it is free. -/
def takeWriter (c : Connection) (now number : Nat) : Connection :=
  let c := { c with writers := c.writers.join number }
  if c.writers.serves number then
    let slot := c.writer
    let c := { c with writer := none, writers := c.writers.leave number }
    match slot with
    | some slot => c.setStage number (.closing slot (now + c.config.sendTimeout.nanos))
    | none => c.setStage number .leaving
  else c

/-- Leaves the stream. -/
def release (c : Connection) : Connection :=
  { c with socket := { c.socket with wire := c.socket.wire.release } }

/-- Takes the reading half away, when it is free. The writing half is gone by then, and the stream is left. -/
def takeReader (c : Connection) (number : Nat) : Connection :=
  let c := { c with readers := c.readers.join number }
  if c.readers.serves number then { c with reader := false }.release.conclude number .done
  else c

/-! ## Any step -/

/-- The first step of a call: it looks at the flag. -/
def start (c : Connection) (now number : Nat) (call : Call) : Connection :=
  match call with
  | .read =>
    if c.closed then c.fail number .connectionClosed
    else c.setStage number (.tested (now + c.config.receiveTimeout.nanos))
  | .write _ =>
    if c.closed then c.fail number .connectionClosed
    else c.setStage number (.tested (now + c.config.sendTimeout.nanos))
  | .close =>
    if c.closed then c.conclude number .done
    else { c with closed := true }.setStage number .flagged

/-- One step of a call at a time. A call that is over takes no more steps. -/
def advance (c : Connection) (now : Nat) (o : Call.Ongoing) : Connection :=
  match o.stage, o.call with
  | .begun, call => c.start now o.number call
  | .tested deadline, _ => c.setStage o.number (.waiting deadline)
  | .waiting deadline, .read => c.pollRead now o.number deadline
  | .waiting deadline, .write text => c.pollWrite now o.number deadline text
  | .waiting _, .close => c
  | .flushing deadline, _ => c.pollFlush now o.number deadline
  | .flagged, _ => { c with signal := true }.setStage o.number .signalled
  | .signalled, _ => c.takeWriter now o.number
  | .closing slot deadline, _ => c.pollClose now o.number deadline slot
  | .leaving, _ => c.takeReader o.number
  | .finished _, _ => c

/-- One step of the call with a number. -/
def step (c : Connection) (now number : Nat) : Connection :=
  match c.call? number with
  | some o => c.advance now o
  | none => c

end TextSocket.Connection
