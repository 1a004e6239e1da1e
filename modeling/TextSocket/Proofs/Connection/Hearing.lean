import TextSocket.Connection.Step
import TextSocket.Proofs.Socket.Reading

/-!
# `Proofs.Connection.Hearing` — what a socket means to a reader

A reader asks its socket until it is told something: a text, a failure, or that it has to wait. Pings and pongs tell
it nothing, so it passes over them.

## Contents

* `heard`, `report` — what a message of data means to a reader;
* `nextTextWith_rel` — what asking keeps, as far as every question keeps it;
* `Hears`, `nextText_hears` — what a reader gets of the stream of its peer.
-/

namespace TextSocket

namespace Connection

open Net (Attempt)
open Socket (Content Inflow Starved frameLimit)

/-! ## What a message means to a reader -/

/-- What a message of data means to a reader. -/
def heard : Content → Except Error String
  | .text words => if words.isEmpty then .error .emptyMessage else .ok words
  | .binary _ => .error .binaryMessage

/-- The result of a read. -/
def outcomeOf : Except Error String → Call.Outcome
  | .ok words => .text words
  | .error cause => .failed cause

/-- **What a read reports of a message of data.** -/
def report (content : Content) : Call.Outcome := outcomeOf (heard content)

/-- Whether a call has been given up at its deadline. -/
def isTimeout : Call.Outcome → Bool
  | .failed (.timeout _ _) => true
  | _ => false

theorem readMessage?_content (content : Content) : readMessage? content.message = some (heard content) := by
  cases content with
  | text words => rfl
  | binary bytes => rfl

theorem readMessage?_beat {message : Socket.Message} (h : Socket.IsBeat message) : readMessage? message = none := by
  cases message with
  | ping payload => rfl
  | pong payload => rfl
  | text words => cases h
  | binary bytes => cases h
  | close reason => cases h

/-- No message of data looks like a deadline. -/
theorem isTimeout_report (content : Content) : isTimeout (report content) = false := by
  cases content with
  | binary bytes => rfl
  | text words =>
    unfold report heard
    simp only
    split
    · rfl
    · rfl

/-- What a reader reports, if it need not wait. -/
def said : Attempt Error String → Option Call.Outcome
  | .ok words => some (.text words)
  | .error cause => some (.failed cause)
  | .blocked => none

theorem said_ofExcept (result : Except Error String) : said (.ofExcept result) = some (outcomeOf result) := by
  cases result with
  | ok words => rfl
  | error cause => rfl

/-! ## Asking -/

/-- **What every question keeps, asking keeps.** The induction is on the questions that may be asked. -/
theorem nextTextWith_rel {R : Socket → Socket → Prop} (hrefl : ∀ s, R s s) (htrans : ∀ {s t u}, R s t → R t u → R s u)
    (hnext : ∀ s : Socket, R s s.next.2) (fuel : Nat) (s : Socket) : R s (nextTextWith fuel s).2 := by
  induction fuel generalizing s with
  | zero => exact hrefl s
  | succ fuel ih =>
    have hasked := hnext s
    rw [nextTextWith]
    rcases hresult : s.next with ⟨(_ | message) | cause | _, t⟩
    all_goals rw [hresult] at hasked
    · exact hasked
    · simp only
      split
      · exact hasked
      · exact htrans hasked (ih t)
    · exact hasked
    · exact hasked

/-- Asking keeps a stream healthy. -/
theorem nextText_steady (s : Socket) : Socket.Steady s (nextText s).2 :=
  nextTextWith_rel Socket.Steady.refl Socket.Steady.trans Socket.next_steady _ s

/-- At the end of reading, nothing is taken. -/
theorem nextText_ended {s : Socket} (hended : s.ended = true) : nextText s = (.error .connectionClosed, s) := by
  unfold nextText nextTextWith Socket.next
  rw [hended]
  rfl

/-! ## What a reader gets -/

/-- **What a reader gets** that begins with a socket. -/
inductive Hears (s : Socket) (future : Bytes) (contents : List Content) (tail : Bytes) :
    Attempt Error String × Socket → Prop where
  /-- It has to wait. -/
  | waits {t : Socket} {frames : List Frame} (hinflow : Inflow t future frames contents tail)
      (hstarved : Starved t) : Hears s future contents tail (.blocked, t)
  /-- It gets what the next content means. -/
  | content {t : Socket} {content : Content} {frames : List Frame} {rest : List Content}
      (hcontents : contents = content :: rest) (hinflow : Inflow t future frames rest tail) :
      Hears s future contents tail (.ofExcept (heard content), t)
  /-- It meets what is behind the frames, or the end of the stream. A frame that is too long is refused. -/
  | beyond {t : Socket} {result : Attempt Error String} (hcontents : contents = [])
      (hmet : s.wire.ending = .open → Frame.decode (some frameLimit) tail ≠ .unfinished)
      (hlong : s.wire.ending = .open → ∀ length, Frame.decode (some frameLimit) tail = .tooLong length →
        t.phase = .active ∧ t.ended = true ∧ result = .error .badBuffer) :
      Hears s future contents tail (result, t)

section hears

variable {s : Socket} {future tail : Bytes} {frames : List Frame} {contents : List Content}

/-- A reader that has begun before gets the same. -/
theorem Hears.since {t : Socket} {result : Attempt Error String × Socket} (h : Hears t future contents tail result)
    (hending : t.wire.ending = s.wire.ending) : Hears s future contents tail result := by
  cases h with
  | waits hinflow hstarved => exact .waits hinflow hstarved
  | content hcontents hinflow => exact .content hcontents hinflow
  | beyond hcontents hmet hlong =>
    rw [hending] at hmet hlong
    exact .beyond hcontents hmet hlong

/-- **A reader passes over pings and pongs.** The induction is on the messages that may be taken. -/
theorem nextTextWith_hears (fuel : Nat) (h : Inflow s future frames contents tail)
    (hfuel : s.wire.incoming.length < fuel) : Hears s future contents tail (nextTextWith fuel s) := by
  induction fuel generalizing s frames with
  | zero => omega
  | succ fuel ih =>
    have hreads := Socket.read_reads h
    unfold nextTextWith Socket.next
    rw [h.going]
    simp only [Bool.false_eq_true, if_false]
    generalize s.read = result at hreads
    cases hreads with
    | waits hinflow hstarved => exact .waits hinflow hstarved
    | beat hinflow hbeat hsize hending =>
      simp only [readMessage?_beat hbeat]
      exact (ih hinflow (by omega)).since hending
    | content hcontents hinflow =>
      simp only [readMessage?_content]
      exact .content hcontents hinflow
    | @beyond t result hcontents hmet hlong =>
      refine .beyond hcontents hmet fun hopen length htail => ?_
      obtain ⟨hactive, rfl⟩ := hlong hopen length htail
      exact ⟨hactive, rfl, rfl⟩

theorem nextText_hears (h : Inflow s future frames contents tail) : Hears s future contents tail (nextText s) :=
  nextTextWith_hears _ h (Nat.lt_succ_self _)

end hears

end Connection

end TextSocket
