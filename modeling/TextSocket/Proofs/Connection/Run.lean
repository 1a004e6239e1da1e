import TextSocket.Connection.Step
import TextSocket.Proofs.Net.Wire

/-!
# `Proofs.Connection.Run` — everything that can happen to a connection

A run is any order of events: calls are made, calls take steps, and the peer acts. Nothing is assumed of the clock,
nor of who takes a step and when, so what holds of every run holds under every schedule.

A history is a connection together with what an observer has noted on the way: the order in which the calls have
obtained the halves of the socket, the call that has set the flag, and the bytes that have arrived. No step looks at
these notes.

## Contents

* `Connection.Half`, `Connection.At`, `Connection.grants` — halves, stages, and who obtains a half;
* `Event`, `Event.enter_or_peer` — what can happen;
* `History`, `History.after`, `History.run` — runs;
* `at_setStage`, `at_conclude`, `call?_enter` — the stage of every call behind a change.
-/

namespace TextSocket

namespace Connection

/-! ## Halves and stages -/

/-- A half of the socket. -/
inductive Half where
  /-- The one that reads take. -/
  | reading
  /-- The one that writes take. -/
  | writing
  deriving DecidableEq, Repr

/-- The calls that want a half. -/
def queue (c : Connection) : Half → Queue
  | .reading => c.readers
  | .writing => c.writers

/-- A call is known by a number, and has come to a stage. -/
def At (c : Connection) (number : Nat) (call : Call) (stage : Call.Stage) : Prop :=
  c.call? number = some ⟨number, call, stage⟩

end Connection

/-- The half that a read or a write takes. -/
def Call.half? : Call → Option Connection.Half
  | .read => some .reading
  | .write _ => some .writing
  | .close => none

namespace Connection

/-- Whether a call obtains a half with its next step: it listens, no signal is set, and no call is in front of it. -/
def grants (c : Connection) (half : Half) (number : Nat) : Bool :=
  match c.call? number with
  | some ⟨_, call, .waiting _⟩ =>
    call.half? = some half && !c.signal && ((c.queue half).join number).serves number
  | _ => false

/-! ## Events -/

/-- Something that happens to a connection. -/
inductive Event where
  /-- A call is made. -/
  | enter (call : Call)
  /-- The call with a number takes a step, at a time. -/
  | step (now number : Nat)
  /-- The peer does something to the stream. -/
  | peer (act : Net.PeerAct)

/-- An event that is no step of a call is a new call, or the peer acts. -/
theorem Event.enter_or_peer {event : Event} (hevent : ∀ now n, event ≠ .step now n) :
    (∃ call, event = .enter call) ∨ ∃ act, event = .peer act := by
  cases event with
  | step now n => exact absurd rfl (hevent now n)
  | enter call => exact Or.inl ⟨call, rfl⟩
  | peer act => exact Or.inr ⟨act, rfl⟩

/-- The connection, with its stream changed. -/
def onWire (c : Connection) (change : Net.Wire → Net.Wire) : Connection :=
  { c with socket := { c.socket with wire := change c.socket.wire } }

/-- A connection, and what has been noted of its past. -/
structure History where
  /-- The connection. -/
  connection : Connection
  /-- The calls that have obtained a half, in this order. -/
  order : Half → List Nat
  /-- The call that has set the flag. -/
  closer : Option Nat
  /-- The bytes that have arrived. -/
  arrived : Bytes

namespace History

/-- A connection to which nothing has happened. -/
def start (c : Connection) : History := ⟨c, fun _ => [], none, c.socket.wire.incoming⟩

/-- The order in which a half has been obtained, when a call is about to take a step. -/
def granted (h : History) (number : Nat) (half : Half) : List Nat :=
  if h.connection.grants half number && !(h.order half).contains number then h.order half ++ [number]
  else h.order half

/-- A call has taken a step, which has led to a connection. -/
def moved (h : History) (number : Nat) (c : Connection) : History where
  connection := c
  order := h.granted number
  closer := if !h.connection.closed && c.closed then some number else h.closer
  arrived := h.arrived

/-- An event happens. A call is known by the number of calls before it. -/
def after (h : History) : Event → History
  | .enter call => { h with connection := h.connection.enter h.connection.calls.length call }
  | .step now number => h.moved number (h.connection.step now number)
  | .peer act => { h with
      connection := h.connection.onWire act.apply
      arrived := h.arrived ++ act.arriving h.connection.socket.wire }

/-- A run: one event after another. -/
def run (h : History) (events : List Event) : History := events.foldl after h

/-- A property that every event of a run keeps holds at its end. -/
theorem run_of_after {P : History → Prop} {events : List Event}
    (keep : ∀ h, ∀ event ∈ events, P h → P (h.after event)) {h : History} (start : P h) : P (h.run events) := by
  induction events generalizing h with
  | nil => exact start
  | cons event events ih =>
    refine ih (fun h event' hmem => keep h event' (List.mem_cons_of_mem _ hmem)) ?_
    exact keep h event List.mem_cons_self start

end History

/-! ## Stages behind a change -/

theorem number_of_call? {c : Connection} {n : Nat} {o : Call.Ongoing} (h : c.call? n = some o) : o.number = n := by
  have found := List.find?_some h
  exact beq_iff_eq.mp found

/-- The call and its stage are determined by the number. -/
theorem At.unique {c : Connection} {n : Nat} {call call' : Call} {stage stage' : Call.Stage}
    (h : c.At n call stage) (h' : c.At n call' stage') : call' = call ∧ stage' = stage := by
  unfold At at h h'
  rw [h] at h'
  injection h' with h'
  injection h' with _ hcall hstage
  exact ⟨hcall.symm, hstage.symm⟩

/-- Noting how far a call has come changes that call. -/
theorem call?_setStage (c : Connection) (n m : Nat) (stage : Call.Stage) :
    (c.setStage n stage).call? m =
      (c.call? m).map fun o => if o.number = n then { o with stage } else o := by
  unfold call? setStage
  rw [List.find?_map]
  congr 2
  funext o
  simp only [Function.comp_apply]
  split <;> rfl

theorem at_setStage {c : Connection} {n : Nat} {call : Call} {stage : Call.Stage} (h : c.At n call stage)
    (stage' : Call.Stage) : (c.setStage n stage').At n call stage' := by
  unfold At at h ⊢
  rw [call?_setStage, h]
  simp

theorem at_conclude {c : Connection} {n : Nat} {call : Call} {stage : Call.Stage} (h : c.At n call stage)
    (outcome : Call.Outcome) : (c.conclude n outcome).At n call (.finished outcome) :=
  at_setStage (c := { c with writers := c.writers.leave n, readers := c.readers.leave n }) h (.finished outcome)

theorem call?_setStage_ne (c : Connection) {n m : Nat} (hne : m ≠ n) (stage : Call.Stage) :
    (c.setStage n stage).call? m = c.call? m := by
  rw [call?_setStage]
  cases hcall : c.call? m with
  | none => rfl
  | some o =>
    have hnumber := number_of_call? hcall
    rw [Option.map_some, if_neg (by rw [hnumber]; exact hne)]

/-- What is noted last counts. -/
theorem setStage_setStage (c : Connection) (n : Nat) (stage stage' : Call.Stage) :
    (c.setStage n stage).setStage n stage' = c.setStage n stage' := by
  unfold setStage
  simp only [List.map_map]
  congr 2
  funext o
  simp only [Function.comp_apply]
  by_cases h : o.number = n
  · rw [if_pos h, if_pos h, if_pos h]
  · rw [if_neg h, if_neg h]

/-- A new call is known by its number, unless the number is taken. -/
theorem call?_enter (c : Connection) (n m : Nat) (call : Call) :
    (c.enter n call).call? m = (c.call? m).or (if n = m then some ⟨n, call, .begun⟩ else none) := by
  unfold enter call?
  rw [List.find?_append]
  congr 1
  by_cases h : n = m
  · simp [h]
  · simp [h]

end Connection

end TextSocket
