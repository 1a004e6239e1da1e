import TextSocket.Frame.Decoder
import TextSocket.Net.Wire
import TextSocket.Socket.Message

/-!
# `TextSocket.Socket` — one end of a WebSocket

A socket turns frames into messages and messages into frames. It answers pings and close frames by itself: the
answer waits in a slot of its own and is written with the next frame, or when somebody reads. Of several pongs that
wait only the latest is written, and nothing takes the place of a close frame. What is written gathers in an
outbox, which is put on the stream when it exceeds a threshold or is flushed.

After a close frame has gone out nothing may be written behind it, and after one has come in nothing may come
behind it. When a server has answered the close frame of its client, the connection is over.

## Contents

* `Socket.Role`, `Socket.Phase`, `Socket` — the state of a socket;
* `Socket.receive`, `Socket.read` — taking frames from the stream;
* `Socket.write`, `Socket.flush`, `Socket.close` — putting frames on it.
-/

namespace TextSocket

namespace Socket

/-! ## States -/

/-- Which end of the connection a socket is. -/
inductive Role where
  /-- The end that has dialled. It masks its frames. -/
  | client
  /-- The end that was dialled. -/
  | server
  deriving DecidableEq, Repr

/-- How far the connection has been closed. -/
inductive Phase where
  /-- No close frame has been sent or received. -/
  | active
  /-- This end has sent a close frame. -/
  | closedByUs
  /-- The peer has sent a close frame, and the answer is on its way. -/
  | closedByPeer
  /-- The peer has answered the close frame of this end. -/
  | acknowledged
  /-- The connection is over. -/
  | terminated
  deriving DecidableEq, Repr

/-- Whether frames may still come. -/
def Phase.canRead : Phase → Bool
  | .active | .closedByUs => true
  | _ => false

end Socket

/-- One end of a WebSocket. -/
structure Socket where
  /-- Which end it is. -/
  role : Socket.Role
  /-- How far the connection has been closed. -/
  phase : Socket.Phase
  /-- The stream. -/
  wire : Net.Wire
  /-- The message of which fragments are still to come. -/
  assembly : Option Socket.Assembly
  /-- The pong or close frame that is to be written next. -/
  reply : Option Frame
  /-- Whether such a frame has been written but may still be in the outbox. -/
  unflushed : Bool
  /-- What has been written but not put on the stream. -/
  outbox : Bytes
  /-- The size beyond which the outbox is put on the stream at once. -/
  threshold : Nat
  /-- The keys for masks. -/
  keys : Nat → MaskKey
  /-- The number of keys that have been used. -/
  keysUsed : Nat
  /-- Whether reading has come to its end. -/
  ended : Bool
  /-- Whether nothing written before is in the way of the next frame. -/
  ready : Bool
  /-- Whether closing has begun and had to wait. -/
  closing : Bool

namespace Socket

open Net (Attempt Wire)

/-- A socket on a stream. -/
def ofWire (role : Role) (wire : Wire) (threshold : Nat) (keys : Nat → MaskKey) : Socket :=
  { role, wire, threshold, keys
    phase := .active
    assembly := none
    reply := none
    unflushed := false
    outbox := []
    keysUsed := 0
    ended := false
    ready := true
    closing := false }

/-- The result of a call on a socket, and the socket behind it. -/
abbrev Result (α : Type) := Attempt Error α × Socket

/-! ## The outbox -/

/-- Puts the outbox on the stream. The stream takes as much as there is room for. -/
def drain (s : Socket) : Result Unit :=
  if s.outbox.isEmpty then (.ok (), s)
  else match s.wire.write s.outbox with
    | (.ok n, wire) =>
      let s := { s with wire, outbox := s.outbox.drop n }
      (if s.outbox.isEmpty then .ok () else .blocked, s)
    | (.error cause, wire) => (.error (.io cause), { s with wire })
    | (.blocked, wire) => (.blocked, { s with wire })

/-- A frame as it goes out: masked if a client sends it. -/
def dress (s : Socket) (frame : Frame) : Frame × Socket :=
  match s.role with
  | .client => ({ frame with mask := some (s.keys s.keysUsed) }, { s with keysUsed := s.keysUsed + 1 })
  | .server => ({ frame with mask := none }, s)

/-- A reset that comes after the peer has closed the connection is an orderly end. -/
def orderly (s : Socket) : Error → Error
  | .io .connectionReset => if s.phase.canRead then .io .connectionReset else .closed
  | cause => cause

/-- Puts a frame into the outbox. -/
def enqueue (s : Socket) (frame : Frame) : Result Unit :=
  let (frame, s) := s.dress frame
  let s := { s with outbox := s.outbox ++ frame.encode }
  if s.threshold < s.outbox.length then
    let (result, s) := s.drain
    (result.mapError s.orderly, s)
  else (.ok (), s)

/-- Has a pong or a close frame written next. Only a pong gives way to another frame. -/
def setReply (s : Socket) (frame : Frame) : Socket :=
  match s.reply with
  | none => { s with reply := some frame }
  | some waiting => if waiting.opcode = .pong then { s with reply := some frame } else s

/-! ## Writing -/

/-- Ends the connection of a server whose client has closed it. -/
def conclude (s : Socket) (flush : Bool) : Result Bool :=
  if s.role = .server && !s.phase.canRead then
    match s.drain with
    | (.ok (), s) => (.error .closed, { s with phase := .terminated })
    | (.error cause, s) => (.error cause, s)
    | (.blocked, s) => (.blocked, s)
  else (.ok flush, s)

/-- Writes the waiting pong or close frame. The answer says whether it should be flushed. -/
def writeReply (s : Socket) : Result Bool :=
  match s.reply with
  | none => s.conclude s.unflushed
  | some frame =>
    match { s with reply := none }.enqueue frame with
    | (.ok (), s) => s.conclude true
    | (.error cause, s) => (.error cause, s)
    | (.blocked, s) => (.blocked, s)

/-- Writes a frame, and the waiting pong or close frame behind it. -/
def writeFrame (s : Socket) (frame : Frame) : Result Bool :=
  match s.enqueue frame with
  | (.ok (), s) => s.writeReply
  | (.error cause, s) => (.error cause, s)
  | (.blocked, s) => (.blocked, s)

/-- Puts everything on the stream. -/
def flush (s : Socket) : Result Unit :=
  match s.writeReply with
  | (.ok _, s) =>
    match s.drain with
    | (.ok (), s) => (.ok (), { s with unflushed := false })
    | (.error cause, s) => (.error cause, s)
    | (.blocked, s) => (.blocked, s)
  | (.error cause, s) => (.error cause, s)
  | (.blocked, s) => (.blocked, s)

/-- Writes a text. -/
def write (s : Socket) (text : String) : Result Unit :=
  if s.phase = .terminated then (.error .alreadyClosed, s)
  else if s.phase ≠ .active then (.error (.protocol .sendAfterClosing), s)
  else match s.writeFrame (.whole .text (Bytes.ofText text)) with
    | (.ok true, s) => s.flush
    | (.ok false, s) => (.ok (), s)
    | (.error cause, s) => (.error cause, s)
    | (.blocked, s) => (.blocked, s)

/-- Sends a close frame, unless one has been sent or received, and puts everything on the stream. -/
def close (s : Socket) : Result Unit :=
  if s.phase = .active then
    match { s with phase := .closedByUs }.writeFrame (.whole .close (CloseReason.payload none)) with
    | (.ok _, s) => s.flush
    | (.error cause, s) => (.error cause, s)
    | (.blocked, s) => (.blocked, s)
  else s.flush

/-! ## Receiving frames -/

/-- What a close frame amounts to: nothing, if the connection was closed before. -/
def receiveClose (s : Socket) (reason : Option CloseReason) : Option Message × Socket :=
  match s.phase with
  | .active =>
    let reason := reason.map fun r => if CloseReason.isAllowed r.code then r else .violation
    (some (.close reason),
      { s with phase := .closedByPeer }.setReply (.whole .close (CloseReason.payload reason)))
  | .closedByUs => (some (.close reason), { s with phase := .acknowledged })
  | _ => (none, s)

/-- The longest payload of a control frame. -/
def controlLimit : Nat := 125

/-- What a control frame amounts to. -/
def receiveControl (s : Socket) (frame : Frame) : Except Error (Option Message) × Socket :=
  if !frame.final then (.error (.protocol .fragmentedControl), s)
  else if controlLimit < frame.payload.length then (.error (.protocol .controlTooBig), s)
  else match frame.opcode with
    | .ping =>
      (.ok (some (.ping frame.payload)),
        if s.phase = .active then s.setReply (.whole .pong frame.payload) else s)
    | .pong => (.ok (some (.pong frame.payload)), s)
    | _ =>
      match CloseReason.read frame.payload with
      | .error cause => (.error cause, s)
      | .ok reason =>
        let (message, s) := s.receiveClose reason
        (.ok message, s)

/-- A fragment of a message; the message, if it was the last one. -/
def extend (s : Socket) (assembly : Assembly) (frame : Frame) : Except Error (Option Message) × Socket :=
  match assembly.add frame.payload with
  | .error cause => (.error cause, s)
  | .ok assembly =>
    if frame.final then (assembly.complete.map some, { s with assembly := none })
    else (.ok none, { s with assembly := some assembly })

/-- What a frame of a message amounts to. -/
def receiveData (s : Socket) (frame : Frame) : Except Error (Option Message) × Socket :=
  match s.assembly, frame.opcode with
  | none, .continuation => (.error (.protocol .unexpectedContinuation), s)
  | some assembly, .continuation => s.extend assembly frame
  | some _, opcode => (.error (.protocol (.expectedFragment (opcode = .text))), s)
  | none, opcode =>
    if frame.final then
      ((if opcode = .text then textOf frame.payload else .ok (.binary frame.payload)).map some, s)
    else s.extend (.start (opcode = .text)) frame

/-- What a frame amounts to: a message, nothing yet, or a failure. -/
def receive (s : Socket) (frame : Frame) : Except Error (Option Message) × Socket :=
  if s.role = .server && frame.mask.isNone then (.error (.protocol .unmaskedFromClient), s)
  else if !s.phase.canRead then (.error (.protocol .receivedAfterClosing), s)
  else if frame.reserved ≠ 0 then (.error (.protocol .reservedBits), s)
  else if s.role = .client && frame.mask.isSome then (.error (.protocol .maskedFromServer), s)
  else if frame.opcode.isControl then s.receiveControl frame
  else s.receiveData frame

/-! ## Reading -/

/-- What happens when the peer sends nothing any more. -/
def starve (s : Socket) : Result (Option Message) :=
  match s.wire.wait with
  | (.blocked, wire) => (.blocked, { s with wire })
  | (.error cause, wire) => (.error (s.orderly (.io cause)), { s with wire })
  | (.ok (), wire) =>
    (.error (match s.phase with
      | .closedByPeer | .acknowledged => .closed
      | _ => .protocol .resetWithoutClosing), { s with wire, phase := .terminated })

/-- Takes one frame from the stream. -/
def takeFrame (s : Socket) : Result (Option Message) :=
  match Frame.decode (some frameLimit) s.wire.incoming with
  | .unfinished => s.starve
  | .badOpcode code => (.error (.protocol (.badOpcode code)), s)
  | .tooLong length => (.error (.messageTooLong length frameLimit), s)
  | .frame frame rest =>
    match { s with wire := s.wire.take rest }.receive frame with
    | (.ok message, s) => (.ok message, s)
    | (.error cause, s) => (.error cause, s)

/-- Puts the waiting pong or close frame on the stream before a frame is taken. A stream without room does not
    hinder reading. -/
def answerFirst (s : Socket) : Result Unit :=
  if s.reply.isSome || s.unflushed then
    match s.flush with
    | (.blocked, s) => (.ok (), { s with unflushed := true })
    | result => result
  else if s.role = .server && !s.phase.canRead then (.error .closed, { s with phase := .terminated })
  else (.ok (), s)

/-- Takes frames until a message is there; `fuel` frames at most. -/
def readWith : Nat → Socket → Result Message
  | 0, s => (.blocked, s)
  | fuel + 1, s =>
    match s.answerFirst with
    | (.error cause, s) => (.error cause, s)
    | (.blocked, s) => (.blocked, s)
    | (.ok (), s) =>
      match s.takeFrame with
      | (.ok (some message), s) => (.ok message, s)
      | (.ok none, s) => readWith fuel s
      | (.error cause, s) => (.error cause, s)
      | (.blocked, s) => (.blocked, s)

/-- Takes frames until a message is there. Each frame has at least two bytes, and one call follows the last
    frame. -/
def read (s : Socket) : Result Message :=
  if s.phase = .terminated then (.error .alreadyClosed, s)
  else readWith (s.wire.incoming.length + 1) s

end Socket

end TextSocket
