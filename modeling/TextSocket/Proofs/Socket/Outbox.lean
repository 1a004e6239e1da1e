import TextSocket.Proofs.Net.Wire
import TextSocket.Socket.Basic

/-!
# `Proofs.Socket.Outbox` — what writing does to a socket

Every writing operation of a socket ends in the same three things: frames are put behind what has been written,
a part of the outbox may go over to the stream, and the waiting pong or close frame may be among the frames. One
relation says this of all of them (`Sends`): the bytes written grow by whole frames and by nothing else, the
frames are those of the caller followed by the waiting reply if it has been taken, and they are masked exactly
if a client writes them. Nothing that has to do with reading changes (`Keeps`).

A cancelled write needs no case of its own. A call that is given up has put whole frames into the outbox or has
not, and whatever remains there is in front of every later frame.

## Contents

* `Keeps`, `Sends` — what a writing operation leaves alone, and what it does;
* `Fares` — what its failure means;
* `drain_sends`, `enqueue_sends`, `writeReply_sends`, `writeFrame_sends`, `flush_sends`, `write_sends`,
  `close_sends` — the operations one by one.
-/

namespace TextSocket

/-- A frame without its mask. -/
def Frame.bare (frame : Frame) : Frame := { frame with mask := none }

namespace Socket

open Net (Attempt Wire)

/-! ## What writing does -/

/-- Everything that a socket has written: what is on the stream, and what is still in the outbox. -/
def written (s : Socket) : Bytes := s.wire.outgoing ++ s.outbox

/-- What writing leaves alone: the role, everything that has to do with reading, and how far the connection has
    been closed, as far as that matters to somebody who may still write. -/
structure Keeps (s s' : Socket) : Prop where
  /-- The role is the same. -/
  role : s'.role = s.role
  /-- What is on the stream stays there. -/
  onWire : s.wire.outgoing <+: s'.wire.outgoing
  /-- Nothing is taken from the stream. -/
  incoming : s'.wire.incoming = s.wire.incoming
  /-- The message of which fragments are still to come is the same. -/
  assembly : s'.assembly = s.assembly
  /-- Reading goes on as before. -/
  ended : s'.ended = s.ended
  /-- A connection that is not being closed stays so, and no other becomes so. -/
  active : s'.phase = .active ↔ s.phase = .active
  /-- A healthy stream stays healthy. -/
  healthy : s.wire.Healthy → s'.wire.Healthy ∧ s'.wire.ending = s.wire.ending
  /-- At most a reset is noticed. -/
  ending : s.wire.ending.Notes s'.wire.ending
  /-- A stream that is not healthy takes nothing. -/
  stuck : s.wire.Stuck s'.wire

theorem Keeps.refl (s : Socket) : Keeps s s :=
  ⟨rfl, List.prefix_rfl, rfl, rfl, rfl, Iff.rfl, fun h => ⟨h, rfl⟩, .refl _, .refl _⟩

theorem Keeps.trans {s t u : Socket} (h : Keeps s t) (k : Keeps t u) : Keeps s u where
  role := k.role.trans h.role
  onWire := h.onWire.trans k.onWire
  incoming := k.incoming.trans h.incoming
  assembly := k.assembly.trans h.assembly
  ended := k.ended.trans h.ended
  active := k.active.trans h.active
  healthy hs := ⟨(k.healthy (h.healthy hs).1).1, (k.healthy (h.healthy hs).1).2.trans (h.healthy hs).2⟩
  ending := h.ending.trans k.ending
  stuck := h.stuck.trans k.stuck

/-- **What a writing operation does** that has been given the frames `own`: it writes the frames `sent`. They are
    its own frames followed by the waiting reply, up to their masks, or that reply waits still. -/
structure Sends (s : Socket) (own : List Frame) (s' : Socket) (sent : List Frame) : Prop where
  /-- What has been written grows by whole frames. -/
  written : s'.written = s.written ++ sent.flatMap Frame.encode
  /-- No frame appears from nowhere, and none is lost. -/
  accounted : sent.map Frame.bare ++ s'.reply.toList.map Frame.bare =
    own.map Frame.bare ++ s.reply.toList.map Frame.bare
  /-- The reply that waits is the one that has waited before. -/
  replied : s'.reply = none ∨ s'.reply = s.reply
  /-- Frames are masked exactly if a client writes them. -/
  masked : ∀ frame ∈ sent, frame.mask.isSome = true ↔ s.role = .client
  /-- All else is the same. -/
  keeps : Keeps s s'

theorem Sends.refl (s : Socket) : Sends s [] s [] where
  written := by simp
  accounted := rfl
  replied := Or.inr rfl
  masked := by simp
  keeps := Keeps.refl s

/-- Writing, and then writing what may still wait. -/
theorem Sends.trans {s t u : Socket} {own sent more : List Frame} (h : Sends s own t sent)
    (k : Sends t [] u more) : Sends s own u (sent ++ more) where
  written := by rw [k.written, h.written, List.flatMap_append, List.append_assoc]
  accounted := by
    have hk := k.accounted
    rw [List.map_nil, List.nil_append] at hk
    rw [List.map_append, List.append_assoc, hk, h.accounted]
  replied := by
    rcases k.replied with hk | hk
    · exact Or.inl hk
    · rw [hk]
      exact h.replied
  masked frame hmem := by
    rcases List.mem_append.mp hmem with hm | hm
    · exact h.masked frame hm
    · rw [← h.keeps.role]
      exact k.masked frame hm
  keeps := h.keeps.trans k.keeps

/-! ## The outbox -/

/-- What emptying the outbox comes to: a healthy stream takes a part from the front, and all of it if the call is done;
    or the peer has reset the stream, or this end has given up writing. -/
theorem drain_cases (s : Socket) :
    (∃ n room result, (s.wire.Healthy ∨ n = 0) ∧ (result = .ok () ∧ s.outbox.drop n = [] ∨ result = .blocked) ∧
      s.drain = (result, { s with
        wire := { s.wire with outgoing := s.wire.outgoing ++ s.outbox.take n, room }
        outbox := s.outbox.drop n })) ∨
    ∃ cause ending, ¬ s.wire.Healthy ∧ s.wire.ending.Notes ending ∧
      (cause = .connectionReset → ending = .dead) ∧
      s.drain = (.error (.io cause), { s with wire := { s.wire with ending } }) := by
  unfold drain
  split
  · next hempty =>
    have hnil : s.outbox = [] := List.isEmpty_iff.mp hempty
    exact Or.inl ⟨0, s.wire.room, .ok (), Or.inr rfl, Or.inl ⟨rfl, by simpa using hnil⟩, by simp⟩
  · rcases s.wire.write_cases s.outbox with ⟨n, room, hhealthy, hw⟩ | hw | ⟨hsick, hw | ⟨hreset, hw⟩⟩
    · rw [hw]
      refine Or.inl ⟨n, room, _, Or.inl hhealthy, ?_, rfl⟩
      simp only
      split
      · next hall => exact Or.inl ⟨rfl, List.isEmpty_iff.mp hall⟩
      · exact Or.inr rfl
    · rw [hw]
      exact Or.inl ⟨0, s.wire.room, .blocked, Or.inr rfl, Or.inr rfl, by simp⟩
    · rw [hw]
      exact Or.inr ⟨.brokenPipe, s.wire.ending, hsick, .refl _, by simp, rfl⟩
    · rw [hw]
      exact Or.inr ⟨.connectionReset, .dead, hsick, Or.inr ⟨hreset, rfl⟩, fun _ => rfl, rfl⟩

/-- **Emptying the outbox writes nothing new.** -/
theorem drain_sends (s : Socket) :
    Sends s [] s.drain.2 [] ∧ s.drain.2.phase = s.phase ∧ s.drain.2.reply = s.reply := by
  rcases s.drain_cases with ⟨n, room, result, htakes, _, h⟩ | ⟨cause, ending, hsick, hnotes, _, h⟩
  · rw [h]
    -- what leaves the outbox is on the stream
    have hwritten : written { s with
        wire := { s.wire with outgoing := s.wire.outgoing ++ s.outbox.take n, room }
        outbox := s.outbox.drop n } = s.written := by
      simp [written]
    have hkeeps : Keeps s { s with
        wire := { s.wire with outgoing := s.wire.outgoing ++ s.outbox.take n, room }
        outbox := s.outbox.drop n } :=
      { Keeps.refl s with
        onWire := ⟨_, rfl⟩
        healthy := fun h => ⟨⟨h.ending, h.shut⟩, rfl⟩
        stuck := fun hsick => ⟨fun h => hsick ⟨h.ending, h.shut⟩, by simp [htakes.resolve_left hsick]⟩ }
    exact ⟨{ Sends.refl s with written := by simp [hwritten], keeps := hkeeps }, rfl, rfl⟩
  · rw [h]
    have hkeeps : Keeps s { s with wire := { s.wire with ending } } :=
      { Keeps.refl s with
        healthy := fun h => absurd h hsick
        ending := hnotes
        stuck := Wire.stuck_of_notes hnotes rfl rfl }
    exact ⟨{ Sends.refl s with keeps := hkeeps }, rfl, rfl⟩

/-- Emptying the outbox succeeds only when everything is on the stream. -/
theorem outbox_drain {s : Socket} (h : s.drain.1 = .ok ()) : s.drain.2.outbox = [] := by
  rcases s.drain_cases with ⟨n, room, result, _, hresult, hd⟩ | ⟨cause, ending, _, _, _, hd⟩
  · rw [hd] at h ⊢
    rcases hresult with ⟨_, hall⟩ | hblocked
    · exact hall
    · rw [hblocked] at h; cases h
  · rw [hd] at h; cases h

/-- A failure to empty the outbox is one of the stream. A reset that has been noticed is known from then on. -/
theorem drain_error {s : Socket} {cause : Error} (h : s.drain.1 = .error cause) :
    ¬ s.wire.Healthy ∧ cause ≠ .closed ∧ (cause = .io .connectionReset → s.drain.2.wire.ending = .dead) := by
  rcases s.drain_cases with ⟨n, room, result, _, hresult, hd⟩ | ⟨io, ending, hsick, _, hreset, hd⟩
  · rw [hd] at h
    rcases hresult with ⟨hok, _⟩ | hblocked
    · rw [hok] at h; cases h
    · rw [hblocked] at h; cases h
  · rw [hd] at h ⊢
    cases h
    exact ⟨hsick, by simp, fun he => hreset (by injection he)⟩

/-! ## One thing after another -/

/-- Goes on with the socket of a call that is done. -/
def Result.andThen {α β : Type} (result : Result α) (next : α → Socket → Result β) : Result β :=
  match result with
  | (.ok value, s) => next value s
  | (.error cause, s) => (.error cause, s)
  | (.blocked, s) => (.blocked, s)

/-- **What the failure of a writing operation means.** On a healthy stream that nobody closes there is none. An
    orderly end is one only if everything is on the stream, unless the peer has reset it. -/
structure Fares {α : Type} (s : Socket) (result : Result α) : Prop where
  /-- On a healthy stream that nobody closes no failure is met. -/
  steady : s.wire.Healthy → s.phase = .active → ∀ cause, result.1 ≠ .error cause
  /-- An orderly end comes behind the last byte. -/
  closed : result.1 = .error .closed → result.2.outbox = [] ∨ result.2.wire.ending = .dead

section andThen

variable {α β : Type} {s : Socket} {own sent : List Frame} {result : Result α} (next : α → Socket → Result β)

theorem sends_andThen (h : Sends s own result.2 sent)
    (k : ∀ value t, result = (.ok value, t) → ∃ more, Sends t [] (next value t).2 more) :
    ∃ more, Sends s own (result.andThen next).2 (sent ++ more) := by
  rcases result with ⟨value | cause | _, t⟩
  · obtain ⟨more, hmore⟩ := k value t rfl
    exact ⟨more, h.trans hmore⟩
  · exact ⟨[], by rw [List.append_nil]; exact h⟩
  · exact ⟨[], by rw [List.append_nil]; exact h⟩

theorem fares_andThen (h : Sends s own result.2 sent) (hf : Fares s result)
    (k : ∀ value t, result = (.ok value, t) → Fares t (next value t)) :
    Fares s (result.andThen next) := by
  rcases result with ⟨value | cause | _, t⟩
  · have hk := k value t rfl
    exact ⟨fun hs ha => hk.steady (h.keeps.healthy hs).1 (h.keeps.active.mpr ha), hk.closed⟩
  · exact ⟨fun hs ha => absurd rfl (hf.steady hs ha cause), fun hc => hf.closed (by cases hc; rfl)⟩
  · exact ⟨fun _ _ cause => by simp [Result.andThen], fun hc => by simp [Result.andThen] at hc⟩

end andThen

/-! ## Frames into the outbox -/

/-- The socket with a frame behind everything in its outbox. -/
def buffered (s : Socket) (frame : Frame) : Socket :=
  { (s.dress frame).2 with outbox := s.outbox ++ (s.dress frame).1.encode }

/-- **Dressing a frame** puts a mask on it if a client writes it. It uses up a key at most. -/
theorem dress_cases (s : Socket) (frame : Frame) :
    ∃ frame' keysUsed, s.dress frame = (frame', { s with keysUsed }) ∧ frame'.bare = frame.bare ∧
      (frame'.mask.isSome = true ↔ s.role = .client) := by
  unfold dress
  split
  · next hrole => exact ⟨_, _, rfl, rfl, by simp [hrole]⟩
  · next hrole => exact ⟨_, _, rfl, rfl, by simp [hrole]⟩

theorem buffered_sends (s : Socket) (frame : Frame) :
    Sends s [frame] (s.buffered frame) [(s.dress frame).1] ∧ (s.buffered frame).phase = s.phase ∧
      (s.buffered frame).reply = s.reply := by
  obtain ⟨frame', keysUsed, hdress, hbare, hmask⟩ := s.dress_cases frame
  unfold buffered
  rw [hdress]
  refine ⟨?_, rfl, rfl⟩
  constructor
  case written => simp [written]
  case accounted => simp [hbare]
  case replied => exact Or.inr rfl
  case masked =>
    intro other hmem
    rw [List.mem_singleton.mp hmem]
    exact hmask
  case keeps => exact { Keeps.refl s with }

theorem enqueue_eq (s : Socket) (frame : Frame) :
    s.enqueue frame =
      if (s.buffered frame).threshold < (s.buffered frame).outbox.length then
        ((s.buffered frame).drain.1.mapError (s.buffered frame).drain.2.orderly, (s.buffered frame).drain.2)
      else (.ok (), s.buffered frame) := by
  unfold enqueue buffered dress
  cases s.role <;> rfl

/-- **Writing a frame** puts it behind everything else, masked if a client does it. -/
theorem enqueue_sends (s : Socket) (frame : Frame) :
    Sends s [frame] (s.enqueue frame).2 [(s.dress frame).1] ∧ (s.enqueue frame).2.phase = s.phase ∧
      (s.enqueue frame).2.reply = s.reply := by
  obtain ⟨hb, hphase, hreply⟩ := s.buffered_sends frame
  rw [enqueue_eq]
  split
  · obtain ⟨hd, hphase', hreply'⟩ := (s.buffered frame).drain_sends
    exact ⟨hb.trans hd, hphase'.trans hphase, hreply'.trans hreply⟩
  · exact ⟨hb, hphase, hreply⟩

/-- Only a reset can look like an orderly end. -/
theorem orderly_eq_closed {s : Socket} {cause : Error} (h : s.orderly cause = .closed) :
    cause = .closed ∨ cause = .io .connectionReset := by
  unfold orderly at h
  split at h
  · exact Or.inr rfl
  · exact Or.inl h

theorem enqueue_fares (s : Socket) (frame : Frame) : Fares s (s.enqueue frame) := by
  obtain ⟨hb, _, _⟩ := s.buffered_sends frame
  rw [enqueue_eq]
  split
  · cases hd : (s.buffered frame).drain.1 with
    | ok value => exact ⟨fun _ _ cause => by simp [Attempt.mapError], fun h => by simp [Attempt.mapError] at h⟩
    | blocked => exact ⟨fun _ _ cause => by simp [Attempt.mapError], fun h => by simp [Attempt.mapError] at h⟩
    | error cause =>
      obtain ⟨hsick, hclosed, hreset⟩ := drain_error hd
      refine ⟨fun hs _ => absurd (hb.keeps.healthy hs).1 hsick, fun h => Or.inr ?_⟩
      simp only [Attempt.mapError, Attempt.error.injEq] at h
      exact hreset ((orderly_eq_closed h).resolve_left hclosed)
  · exact ⟨by simp, by simp⟩

/-! ## The waiting reply -/

theorem conclude_sends (s : Socket) (flush : Bool) : Sends s [] (s.conclude flush).2 [] := by
  obtain ⟨hd, hphase, _⟩ := s.drain_sends
  unfold conclude
  split
  · next hover =>
    -- only a connection that is being closed is terminated
    have hread : s.phase ≠ .active := by
      intro h
      simp [h, Phase.canRead] at hover
    rcases hdrain : s.drain with ⟨value | cause | _, t⟩
    · rw [hdrain] at hd hphase
      have terminated : Phase.terminated = .active ↔ s.phase = .active :=
        ⟨fun h => Phase.noConfusion h, fun h => absurd h hread⟩
      exact { hd with keeps := { hd.keeps with active := terminated } }
    · rw [hdrain] at hd
      exact hd
    · rw [hdrain] at hd
      exact hd
  · exact Sends.refl s

theorem conclude_fares (s : Socket) (flush : Bool) : Fares s (s.conclude flush) := by
  unfold conclude
  split
  · next hover =>
    have hread : s.phase ≠ .active := by
      intro h
      simp [h, Phase.canRead] at hover
    refine ⟨fun _ h => absurd h hread, ?_⟩
    rcases hdrain : s.drain with ⟨value | cause | _, t⟩
    · intro _
      have := outbox_drain (s := s) (by rw [hdrain])
      rw [hdrain] at this
      exact Or.inl this
    · intro h
      have herror : s.drain.1 = .error cause := by rw [hdrain]
      exact absurd (by injection h) (drain_error herror).2.1
    · intro h
      cases h
  · exact ⟨by simp, by simp⟩

theorem writeReply_eq (s : Socket) :
    s.writeReply = match s.reply with
      | none => s.conclude s.unflushed
      | some frame => Result.andThen ({ s with reply := none }.enqueue frame) fun _ t => t.conclude true := by
  unfold writeReply
  cases s.reply with
  | none => rfl
  | some frame =>
    dsimp only
    split
    all_goals next henqueue => rw [henqueue]; rfl

/-- Taking the waiting reply out of its place and writing it. -/
theorem enqueue_reply_sends {s : Socket} {frame : Frame} (h : s.reply = some frame) :
    Sends s [] ({ s with reply := none }.enqueue frame).2
      [({ s with reply := none }.dress frame).1] := by
  obtain ⟨he, _, hreply⟩ := { s with reply := none }.enqueue_sends frame
  refine { he with accounted := ?_, replied := Or.inl hreply, keeps := { he.keeps with } }
  obtain ⟨_, _, hdress, hbare, _⟩ := { s with reply := none }.dress_cases frame
  rw [hreply, h, hdress, List.map_singleton, hbare]
  rfl

/-- **Writing the waiting reply** writes nothing else. -/
theorem writeReply_sends (s : Socket) : ∃ sent, Sends s [] s.writeReply.2 sent := by
  rw [writeReply_eq]
  cases hreply : s.reply with
  | none => exact ⟨[], s.conclude_sends s.unflushed⟩
  | some frame =>
    obtain ⟨more, hmore⟩ := sends_andThen (fun _ t => t.conclude true) (enqueue_reply_sends hreply)
      fun value t ht => ⟨[], t.conclude_sends true⟩
    exact ⟨_, hmore⟩

theorem writeReply_fares (s : Socket) : Fares s s.writeReply := by
  rw [writeReply_eq]
  cases hreply : s.reply with
  | none => exact s.conclude_fares s.unflushed
  | some frame =>
    have he := { s with reply := none }.enqueue_fares frame
    exact fares_andThen _ (enqueue_reply_sends hreply) ⟨he.steady, he.closed⟩
      fun value t ht => t.conclude_fares true

/-! ## Frames, texts and close frames -/

theorem writeFrame_eq (s : Socket) (frame : Frame) :
    s.writeFrame frame = (s.enqueue frame).andThen fun _ t => t.writeReply := by
  unfold writeFrame
  rcases s.enqueue frame with ⟨value | cause | _, t⟩ <;> rfl

/-- **Writing a frame with the waiting reply behind it.** -/
theorem writeFrame_sends (s : Socket) (frame : Frame) :
    ∃ more, Sends s [frame] (s.writeFrame frame).2 ((s.dress frame).1 :: more) := by
  rw [writeFrame_eq]
  obtain ⟨more, hmore⟩ := sends_andThen (fun _ t => t.writeReply) (s.enqueue_sends frame).1
    fun value t ht => t.writeReply_sends
  exact ⟨more, hmore⟩

theorem writeFrame_fares (s : Socket) (frame : Frame) : Fares s (s.writeFrame frame) := by
  rw [writeFrame_eq]
  exact fares_andThen _ (s.enqueue_sends frame).1 (s.enqueue_fares frame) fun value t ht => t.writeReply_fares

theorem flush_eq (s : Socket) :
    s.flush = s.writeReply.andThen fun _ t => Result.andThen t.drain fun _ u =>
      (.ok (), { u with unflushed := false }) := by
  unfold flush
  rcases s.writeReply with ⟨value | cause | _, t⟩
  · simp only [Result.andThen]
    rcases t.drain with ⟨value | cause | _, u⟩ <;> rfl
  all_goals rfl

/-- Putting everything on the stream, once the reply is in the outbox. -/
theorem drain_flushed_sends (s : Socket) :
    Sends s [] (Result.andThen s.drain fun _ u =>
      ((.ok (), { u with unflushed := false }) : Result Unit)).2 [] := by
  obtain ⟨hd, _, _⟩ := s.drain_sends
  rcases hdrain : s.drain with ⟨value | cause | _, t⟩ <;> rw [hdrain] at hd
  · exact { hd with keeps := { hd.keeps with } }
  · exact hd
  · exact hd

/-- **Flushing** writes the waiting reply and nothing else. -/
theorem flush_sends (s : Socket) : ∃ sent, Sends s [] s.flush.2 sent := by
  rw [flush_eq]
  obtain ⟨sent, hsent⟩ := s.writeReply_sends
  obtain ⟨more, hmore⟩ := sends_andThen _ hsent fun value t ht => ⟨[], t.drain_flushed_sends⟩
  exact ⟨_, hmore⟩

theorem flush_fares (s : Socket) : Fares s s.flush := by
  rw [flush_eq]
  obtain ⟨sent, hsent⟩ := s.writeReply_sends
  refine fares_andThen _ hsent s.writeReply_fares fun value t ht => ?_
  rcases hdrain : t.drain with ⟨value | cause | _, u⟩
  · exact ⟨by simp [Result.andThen], by simp [Result.andThen]⟩
  · have herror : t.drain.1 = .error cause := by rw [hdrain]
    obtain ⟨hsick, hclosed, _⟩ := drain_error herror
    refine ⟨fun h => absurd h hsick, fun h => absurd ?_ hclosed⟩
    injection h
  · exact ⟨by simp [Result.andThen], by simp [Result.andThen]⟩

/-- Flushing succeeds only when everything is on the stream. -/
theorem outbox_flush {s : Socket} (h : s.flush.1 = .ok ()) : s.flush.2.outbox = [] := by
  rw [flush_eq] at h ⊢
  rcases hreply : s.writeReply with ⟨value | cause | _, t⟩ <;> rw [hreply] at h
  · rcases hdrain : t.drain with ⟨value | cause | _, u⟩
    · have := outbox_drain (s := t) (by rw [hdrain])
      rw [hdrain] at this
      simpa [Result.andThen, hdrain] using this
    · simp [Result.andThen, hdrain] at h
    · simp [Result.andThen, hdrain] at h
  · cases h
  · cases h

/-- The frame of a text. -/
def textFrame (text : String) : Frame := .whole .text (Bytes.ofText text)

/-- The frame with which this end begins to close. -/
def closeFrame : Frame := .whole .close (CloseReason.payload none)

theorem write_eq {s : Socket} (h : s.phase = .active) (text : String) :
    s.write text = (s.writeFrame (textFrame text)).andThen fun flush t =>
      if flush then t.flush else (.ok (), t) := by
  unfold write
  rw [if_neg (by simp [h]), if_neg (by simp [h])]
  split
  all_goals next hwrite => rw [textFrame, hwrite]; rfl

/-- **Writing a text** puts it behind everything else, with the waiting reply behind it. -/
theorem write_sends {s : Socket} (h : s.phase = .active) (text : String) :
    ∃ more, Sends s [textFrame text] (s.write text).2 ((s.dress (textFrame text)).1 :: more) := by
  rw [write_eq h]
  obtain ⟨sent, hsent⟩ := s.writeFrame_sends (textFrame text)
  obtain ⟨more, hmore⟩ := sends_andThen (fun flush t => if flush then t.flush else (.ok (), t)) hsent
    fun flush t ht => by
      cases flush with
      | false => exact ⟨[], Sends.refl t⟩
      | true => exact t.flush_sends
  exact ⟨_, hmore⟩

theorem write_fares {s : Socket} (h : s.phase = .active) (text : String) : Fares s (s.write text) := by
  rw [write_eq h]
  obtain ⟨sent, hsent⟩ := s.writeFrame_sends (textFrame text)
  refine fares_andThen _ hsent (s.writeFrame_fares (textFrame text)) fun flush t ht => ?_
  cases flush with
  | false => exact ⟨by simp, by simp⟩
  | true => exact t.flush_fares

/-- Nothing may be written behind a close frame. -/
theorem write_refused {s : Socket} (h : s.phase ≠ .active) (text : String) :
    ∃ cause, s.write text = (.error cause, s) := by
  unfold write
  split
  · exact ⟨_, rfl⟩
  · exact ⟨_, rfl⟩

theorem close_eq {s : Socket} (h : s.phase = .active) :
    s.close = ({ s with phase := .closedByUs }.writeFrame closeFrame).andThen fun _ t => t.flush := by
  unfold close
  rw [if_pos h]
  split
  all_goals next hwrite => rw [closeFrame, hwrite]; rfl

/-- **Closing** puts a close frame behind everything else, with the waiting reply behind it. -/
theorem close_sends {s : Socket} (h : s.phase = .active) :
    ∃ more, Sends { s with phase := .closedByUs } [closeFrame] s.close.2
      (({ s with phase := .closedByUs }.dress closeFrame).1 :: more) := by
  rw [close_eq h]
  obtain ⟨sent, hsent⟩ := { s with phase := .closedByUs }.writeFrame_sends closeFrame
  obtain ⟨more, hmore⟩ := sends_andThen _ hsent fun value t ht => t.flush_sends
  exact ⟨_, hmore⟩

theorem close_eq_flush {s : Socket} (h : s.phase ≠ .active) : s.close = s.flush := by
  unfold close
  rw [if_neg h]

end Socket

end TextSocket
