import TextSocket.Socket.Basic

/-!
# `TextSocket.Socket.Halves` — reading and writing apart

A socket is used from two sides that know nothing of each other. The reading half takes messages until the first
failure and finds the end from then on. The writing half has a slot for one text: a text is put there first and goes
to the socket when nothing written before is in the way. A text that had to stay in the slot goes out with the next
call on the writing half.

## Contents

* `Socket.next` — the reading half: the next message, or the end;
* `Socket.prepare`, `Socket.submit`, `Socket.settle`, `Socket.finish` — what the writing half does with the socket;
* `Socket.Slot` with `feed`, `flush` and `close` — the writing half.
-/

namespace TextSocket.Socket

open Net (Attempt)

/-! ## The reading half -/

/-- The next message; `none` at the end. The first failure is told, and the end is found from then on. An orderly
    end is not a failure. -/
def next (s : Socket) : Result (Option Message) :=
  if s.ended then (.ok none, s)
  else match s.read with
    | (.ok message, s) => (.ok (some message), s)
    | (.blocked, s) => (.blocked, s)
    | (.error cause, s) =>
      (match cause with
        | .closed | .alreadyClosed => .ok none
        | cause => .error cause,
        { s with ended := true })

/-! ## The writing half and the socket -/

/-- Waits until nothing written before is in the way. -/
def prepare (s : Socket) : Result Unit :=
  if s.ready then (.ok (), s)
  else match s.flush with
    | (.blocked, s) => (.blocked, s)
    | (.ok (), s) => (.ok (), { s with ready := true })
    | (.error cause, s) => (.error cause, { s with ready := true })

/-- Hands a text to the socket. If the stream has no room for it, it waits in the outbox, which is then in the way
    of the next one. -/
def submit (s : Socket) (text : String) : Result Unit :=
  match s.write text with
  | (.ok (), s) => (.ok (), { s with ready := true })
  | (.blocked, s) => (.ok (), { s with ready := false })
  | (.error cause, s) => (.error cause, { s with ready := true })

/-- Puts everything on the stream. If that ends the connection, it has succeeded. -/
def settle (s : Socket) : Result Unit :=
  match s.flush with
  | (.blocked, s) => (.blocked, s)
  | (.ok (), s) => (.ok (), { s with ready := true })
  | (.error cause, s) => (if cause = .closed then .ok () else .error cause, { s with ready := true })

/-- Sends a close frame and puts everything on the stream. Once it had to wait, it only goes on with that. -/
def finish (s : Socket) : Result Unit :=
  let s := { s with ready := true }
  match if s.closing then s.flush else s.close with
  | (.ok (), s) => (.ok (), s)
  | (.blocked, s) => (.blocked, { s with closing := true })
  | (.error cause, s) => (if cause = .closed then .ok () else .error cause, s)

/-! ## The writing half -/

/-- The slot of the writing half: a text that the socket has not got yet. -/
abbrev Slot := Option String

namespace Slot

/-- The result of a call on the writing half: the slot and the socket behind it. -/
abbrev Result := Attempt Error Unit × Slot × Socket

/-- Hands the text in the slot to the socket. A text that the socket refuses is lost; one that has to wait for
    another stays. -/
def empty (slot : Slot) (s : Socket) : Result :=
  match slot with
  | none => (.ok (), none, s)
  | some text =>
    match s.prepare with
    | (.ok (), s) =>
      let (result, s) := s.submit text
      (result, none, s)
    | (.error cause, s) => (.error cause, some text, s)
    | (.blocked, s) => (.blocked, some text, s)

/-- Puts a text into the slot, once the slot is empty. -/
def feed (slot : Slot) (s : Socket) (text : String) : Result :=
  match empty slot s with
  | (.ok (), _, s) => (.ok (), some text, s)
  | result => result

/-- Puts everything on the stream. -/
def flush (slot : Slot) (s : Socket) : Result :=
  match empty slot s with
  | (.ok (), slot, s) =>
    let (result, s) := s.settle
    (result, slot, s)
  | result => result

/-- Sends a close frame behind everything else. -/
def close (slot : Slot) (s : Socket) : Result :=
  match empty slot s with
  | (.ok (), slot, s) =>
    let (result, s) := s.finish
    (result, slot, s)
  | result => result

end Slot

end TextSocket.Socket
