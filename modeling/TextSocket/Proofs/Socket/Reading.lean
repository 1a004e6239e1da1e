import TextSocket.Proofs.Socket.Messages
import TextSocket.Proofs.Socket.Outbound

/-!
# `Proofs.Socket.Reading` — messages are read one by one

Bytes come in pieces, and a read may be given up at any point. What a socket has taken from its stream is then in no
call but in the socket itself: the frames taken are gone from the stream, and the fragments among them are in the
assembly. The invariant (`Inflow`) puts this together with what is still to come, so it does not matter how the bytes
are cut.

A read comes as far as the frames (`Reaches`), and then it has to do with what is behind them. So it does one of four
things (`Reads`). It has to wait, and then no whole frame is there. It gives a ping or a pong. It gives the next message
of data, and nothing else is lost. Or everything that the frames carry has been read, and it meets what is behind them.

## Contents

* `Steady` — streams that stay healthy; `next_steady`;
* `Unread`, `Inflow` — the invariant;
* `receive_beat`, `receive_expected`, `frame_front` — one frame;
* `Reaches`, `read_reaches`, `Reads`, `read_reads` — one message.
-/

namespace TextSocket.Socket

open Net (Attempt Wire)

/-! ## Streams that stay healthy -/

/-- A healthy stream stays healthy, and ends when the peer ends it. -/
def Steady (s t : Socket) : Prop :=
  s.wire.Healthy → t.wire.Healthy ∧ t.wire.ending = s.wire.ending

theorem Steady.refl (s : Socket) : Steady s s := fun h => ⟨h, rfl⟩

theorem Steady.trans {s t u : Socket} (h : Steady s t) (k : Steady t u) : Steady s u :=
  fun hs => ⟨(k (h hs).1).1, (k (h hs).1).2.trans (h hs).2⟩

theorem Keeps.steady {s t : Socket} (k : Keeps s t) : Steady s t := k.healthy

theorem flush_keeps (s : Socket) : Keeps s s.flush.2 := by
  obtain ⟨sent, hsent⟩ := s.flush_sends
  exact hsent.keeps

theorem starve_steady (s : Socket) : Steady s s.starve.2 := by
  intro hs
  unfold starve Net.Wire.wait
  cases hending : s.wire.ending with
  | «open» => exact ⟨hs, hending⟩
  | ended => exact ⟨hs, hending⟩
  | reset => exact absurd hs.ending (by simp [hending])
  | dead => exact absurd hs.ending (by simp [hending])

theorem takeFrame_steady (s : Socket) : Steady s s.takeFrame.2 := by
  rw [takeFrame_eq]
  split
  · exact s.starve_steady
  · exact Steady.refl s
  · exact Steady.refl s
  · next frame rest _ =>
    obtain ⟨hwire, _⟩ := ((s.taken rest).receive_answers frame).same
    intro hs
    show ((s.taken rest).receive frame).2.wire.Healthy ∧ _
    rw [hwire]
    exact ⟨⟨hs.ending, hs.shut⟩, rfl⟩

theorem answerFirst_steady (s : Socket) : Steady s s.answerFirst.2 := by
  have flushed := s.flush_keeps.steady
  unfold answerFirst
  split
  · rcases hflush : s.flush with ⟨value | cause | _, t⟩
    all_goals rw [hflush] at flushed
    · exact flushed
    · exact flushed
    · exact flushed
  · split
    · exact Steady.refl s
    · exact Steady.refl s

/-- **Reading leaves a healthy stream healthy.** -/
theorem next_steady (s : Socket) : Steady s s.next.2 :=
  next_rel Steady.refl Steady.trans answerFirst_steady takeFrame_steady (fun s => Steady.refl s) s

/-! ## What is still to come -/

/-- What a socket has of a message, if there is one. -/
def Gathers : Option Assembly → Option (Content × Bytes) → Prop
  | none, none => True
  | some assembly, some (content, front) => Assembles assembly content front
  | _, _ => False

theorem Gathers.eq_none {assembly : Option Assembly} (h : Gathers assembly none) : assembly = none := by
  cases assembly with
  | none => rfl
  | some assembly => cases h

theorem Gathers.assembles {assembly : Option Assembly} {content : Content} {front : Bytes}
    (h : Gathers assembly (some (content, front))) :
    ∃ assembly', assembly = some assembly' ∧ Assembles assembly' content front := by
  cases assembly with
  | none => cases h
  | some assembly => exact ⟨assembly, rfl, h⟩

/-- With what a socket has already, frames carry contents. -/
def Expects (assembly : Option Assembly) (frames : List Frame) (contents : List Content) : Prop :=
  ∃ under, Gathers assembly under ∧ Carries under frames contents

/-- **What a socket has still to read**, whatever has become of its stream: the bytes there and the bytes of the future
    are these frames and the tail, and the frames carry these contents. -/
structure Unread (s : Socket) (future : Bytes) (frames : List Frame) (contents : List Content) (tail : Bytes) :
    Prop where
  /-- The bytes are those of the frames and the tail. -/
  stream : s.wire.incoming ++ future = frames.flatMap Frame.encode ++ tail
  /-- The socket can read the frames. -/
  legible : ∀ frame ∈ frames, Legible s.role frame
  /-- The frames carry the contents. -/
  expects : Expects s.assembly frames contents
  /-- Nobody closes the connection. -/
  active : s.phase = .active
  /-- Reading goes on. -/
  going : s.ended = false
  /-- At the end of the peer's stream there is no future. -/
  final : s.wire.ending = .ended → future = []

/-- What a socket has still to read from a stream that is healthy. -/
structure Inflow (s : Socket) (future : Bytes) (frames : List Frame) (contents : List Content) (tail : Bytes) :
    Prop extends Unread s future frames contents tail where
  /-- The stream is healthy. -/
  healthy : s.wire.Healthy

/-- Neither a whole frame is there nor one that is refused. -/
def Starved (s : Socket) : Prop := Frame.decode (some frameLimit) s.wire.incoming = .unfinished

/-- A message that a socket answers by itself, or an answer. -/
def IsBeat : Message → Prop
  | .ping _ | .pong _ => True
  | _ => False

/-- What a frame leaves alone while nobody closes the connection. -/
structure Alike (s t : Socket) : Prop where
  /-- The stream is the same. -/
  wire : t.wire = s.wire
  /-- The role is the same. -/
  role : t.role = s.role
  /-- Nobody has closed the connection. -/
  phase : t.phase = s.phase
  /-- Reading goes on as before. -/
  ended : t.ended = s.ended

section inflow

variable {s t : Socket} {future tail : Bytes} {frame : Frame} {frames : List Frame} {contents : List Content}

/-- Writing does not change what is still to come. -/
theorem Unread.keeps (h : Unread s future frames contents tail) (k : Keeps s t) :
    Unread t future frames contents tail where
  stream := by rw [k.incoming]; exact h.stream
  legible := by rw [k.role]; exact h.legible
  expects := by rw [k.assembly]; exact h.expects
  active := k.active.mpr h.active
  going := k.ended.trans h.going
  final hended := by
    rcases k.ending with hsame | ⟨_, hdead⟩
    · exact h.final (hsame.symm.trans hended)
    · rw [hdead] at hended
      cases hended

theorem Inflow.keeps (h : Inflow s future frames contents tail) (k : Keeps s t) :
    Inflow t future frames contents tail :=
  ⟨h.toUnread.keeps k, (k.healthy h.healthy).1⟩

/-- What the peer does takes bytes from the future to the stream. -/
theorem Unread.onWire (h : Unread s future frames contents tail) {wire : Wire} {future' : Bytes}
    (hstream : wire.incoming ++ future' = s.wire.incoming ++ future) (hfinal : wire.ending = .ended → future' = []) :
    Unread { s with wire } future' frames contents tail where
  stream := hstream.trans h.stream
  legible := h.legible
  expects := h.expects
  active := h.active
  going := h.going
  final := hfinal

theorem Inflow.onWire (h : Inflow s future frames contents tail) {wire : Wire} {future' : Bytes}
    (hstream : wire.incoming ++ future' = s.wire.incoming ++ future) (hhealthy : wire.Healthy)
    (hfinal : wire.ending = .ended → future' = []) : Inflow { s with wire } future' frames contents tail :=
  ⟨h.toUnread.onWire hstream hfinal, hhealthy⟩

/-! ## One frame -/

theorem setReply_alike (s : Socket) (reply : Frame) :
    Alike s (s.setReply reply) ∧ (s.setReply reply).assembly = s.assembly := by
  unfold setReply
  split
  · exact ⟨⟨rfl, rfl, rfl, rfl⟩, rfl⟩
  · split
    · exact ⟨⟨rfl, rfl, rfl, rfl⟩, rfl⟩
    · exact ⟨⟨rfl, rfl, rfl, rfl⟩, rfl⟩

/-- A socket looks at a frame that it can read. -/
theorem receive_eq (hlegible : Legible s.role frame) (hactive : s.phase = .active) :
    s.receive frame = if frame.opcode.isControl then s.receiveControl frame else s.receiveData frame := by
  unfold receive
  have hmask := hlegible.masked
  rw [if_neg, if_neg, if_neg, if_neg]
  · cases hrole : s.role with
    | server => simp
    | client =>
      rw [hrole] at hmask
      simpa using hmask
  · exact fun hno => hno hlegible.reserved
  · simp [hactive, Phase.canRead]
  · cases hrole : s.role with
    | client => simp
    | server =>
      rw [hrole] at hmask
      have hsome := hmask.mpr rfl
      cases hm : frame.mask with
      | none => rw [hm] at hsome; cases hsome
      | some key => simp

/-- **A ping or a pong** is a message of its own, and leaves everything else as it is. -/
theorem receive_beat (hlegible : Legible s.role frame) (hactive : s.phase = .active)
    (hopcode : frame.opcode = .ping ∨ frame.opcode = .pong) (hfinal : frame.final = true)
    (hshort : frame.payload.length ≤ 125) :
    ∃ message t, s.receive frame = (.ok (some message), t) ∧ IsBeat message ∧ Alike s t ∧
      t.assembly = s.assembly := by
  have hsmall : ¬ controlLimit < frame.payload.length := by
    unfold controlLimit
    omega
  rw [receive_eq hlegible hactive]
  rcases hopcode with hopcode | hopcode
  · refine ⟨.ping frame.payload, s.setReply (.whole .pong frame.payload), ?_, trivial, s.setReply_alike _⟩
    rw [if_pos (by rw [hopcode]; rfl)]
    unfold receiveControl
    rw [hfinal, hopcode]
    simp [hsmall, hactive]
  · refine ⟨.pong frame.payload, s, ?_, trivial, ⟨rfl, rfl, rfl, rfl⟩, rfl⟩
    rw [if_pos (by rw [hopcode]; rfl)]
    unfold receiveControl
    rw [hfinal, hopcode]
    simp [hsmall]

theorem Content.isControl_opcode (content : Content) : content.opcode.isControl = false := by
  cases content <;> rfl

/-- A content in one frame is a message. -/
theorem receive_whole {content : Content} (hlegible : Legible s.role frame) (hactive : s.phase = .active)
    (hassembly : s.assembly = none) (hopcode : frame.opcode = content.opcode) (hfinal : frame.final = true)
    (hpayload : frame.payload = content.bytes) : s.receive frame = (.ok (some content.message), s) := by
  have hmessage := message_whole content
  rw [receive_eq hlegible hactive, if_neg (by rw [hopcode, content.isControl_opcode]; simp)]
  unfold receiveData
  rw [hassembly, hopcode, hfinal, hpayload]
  cases content with
  | text text =>
    rw [show (Content.text text).opcode = .text from rfl] at hmessage ⊢
    simp only [if_true] at hmessage ⊢
    rw [hmessage]
    rfl
  | binary bytes => rfl

/-- The first of several frames begins a message. -/
theorem receive_first {content : Content} (hlegible : Legible s.role frame) (hactive : s.phase = .active)
    (hassembly : s.assembly = none) (hopcode : frame.opcode = content.opcode) (hfinal : frame.final = false) :
    s.receive frame = s.extend (.start content.isText) frame := by
  rw [receive_eq hlegible hactive, if_neg (by rw [hopcode, content.isControl_opcode]; simp)]
  unfold receiveData
  rw [hassembly, hopcode, hfinal]
  cases content with
  | text text => rfl
  | binary bytes => rfl

/-- A further frame goes on with the message. -/
theorem receive_more {assembly : Assembly} (hlegible : Legible s.role frame) (hactive : s.phase = .active)
    (hassembly : s.assembly = some assembly) (hopcode : frame.opcode = .continuation) :
    s.receive frame = s.extend assembly frame := by
  rw [receive_eq hlegible hactive, if_neg (by rw [hopcode]; simp [Opcode.isControl])]
  unfold receiveData
  rw [hassembly, hopcode]

/-- A fragment that is not the last one is kept. -/
theorem extend_part {assembly : Assembly} {content : Content} {front : Bytes} (h : Assembles assembly content front)
    (hpart : front ++ frame.payload <+: content.bytes) (hfinal : frame.final = false) :
    ∃ assembly', s.extend assembly frame = (.ok none, { s with assembly := some assembly' }) ∧
      Assembles assembly' content (front ++ frame.payload) := by
  obtain ⟨assembly', hadd, hassembles⟩ := h.add hpart
  refine ⟨assembly', ?_, hassembles⟩
  unfold extend
  rw [hadd, hfinal]
  rfl

/-- The last fragment gives the message. -/
theorem extend_last {assembly : Assembly} {content : Content} {front : Bytes} (h : Assembles assembly content front)
    (hall : front ++ frame.payload = content.bytes) (hfinal : frame.final = true) :
    s.extend assembly frame = (.ok (some content.message), { s with assembly := none }) := by
  -- with the last part the assembly holds the whole content
  obtain ⟨assembly', hadd, hassembles⟩ := h.add ⟨[], by rw [List.append_nil, hall]⟩
  rw [hall] at hassembles
  unfold extend
  rw [hadd, hfinal]
  simp only [if_true]
  rw [hassembles.complete]
  rfl

/-- **What a frame comes to**: nothing yet, a ping or a pong, or the next content. -/
theorem receive_expected (hlegible : Legible s.role frame) (hactive : s.phase = .active)
    (h : Expects s.assembly (frame :: frames) contents) :
    ∃ message? t, s.receive frame = (.ok message?, t) ∧ Alike s t ∧
      ((∀ message ∈ message?, IsBeat message) ∧ Expects t.assembly frames contents ∨
        ∃ content rest, contents = content :: rest ∧ message? = some content.message ∧
          Expects t.assembly frames rest) := by
  obtain ⟨under, hgathers, hcarries⟩ := h
  -- the frame is a ping or a pong, or one that carries the whole, the first, a further or the last part of a content
  cases hcarries with
  | beat hopcode hfinal hshort hrest =>
    obtain ⟨message, t, hreceive, hbeat, halike, hassembly⟩ := receive_beat hlegible hactive hopcode hfinal hshort
    refine ⟨some message, t, hreceive, halike, Or.inl ⟨?_, under, hassembly ▸ hgathers, hrest⟩⟩
    rintro _ ⟨⟩
    exact hbeat
  | whole hopcode hfinal hpayload hrest =>
    have hassembly := hgathers.eq_none
    refine ⟨_, s, receive_whole hlegible hactive hassembly hopcode hfinal hpayload, ⟨rfl, rfl, rfl, rfl⟩,
      Or.inr ⟨_, _, rfl, rfl, none, ?_, hrest⟩⟩
    rw [hassembly]
    trivial
  | first hopcode hfinal hpayload hlimit hrest =>
    obtain ⟨assembly', hextend, hassembles⟩ := extend_part (s := s) (assembles_start hlimit) hpayload hfinal
    have hreceive := (receive_first hlegible hactive hgathers.eq_none hopcode hfinal).trans hextend
    exact ⟨none, _, hreceive, ⟨rfl, rfl, rfl, rfl⟩, Or.inl ⟨by simp, some (_, _), hassembles, hrest⟩⟩
  | more hopcode hfinal hpayload hrest =>
    obtain ⟨assembly, hassembly, hbefore⟩ := hgathers.assembles
    obtain ⟨assembly', hextend, hassembles⟩ := extend_part (s := s) hbefore hpayload hfinal
    have hreceive := (receive_more hlegible hactive hassembly hopcode).trans hextend
    exact ⟨none, _, hreceive, ⟨rfl, rfl, rfl, rfl⟩, Or.inl ⟨by simp, some (_, _), hassembles, hrest⟩⟩
  | last hopcode hfinal hpayload hrest =>
    obtain ⟨assembly, hassembly, hbefore⟩ := hgathers.assembles
    have hreceive := (receive_more hlegible hactive hassembly hopcode).trans (extend_last hbefore hpayload hfinal)
    exact ⟨_, _, hreceive, ⟨rfl, rfl, rfl, rfl⟩, Or.inr ⟨_, _, rfl, rfl, none, trivial, hrest⟩⟩

/-! ## One message -/

/-- **What a read comes to** that begins with a socket. -/
inductive Reads (s : Socket) (future : Bytes) (contents : List Content) (tail : Bytes) : Result Message → Prop where
  /-- It has to wait. -/
  | waits {t : Socket} {frames : List Frame} (hinflow : Inflow t future frames contents tail)
      (hstarved : Starved t) : Reads s future contents tail (.blocked, t)
  /-- It gives a ping or a pong. -/
  | beat {t : Socket} {message : Message} {frames : List Frame} (hinflow : Inflow t future frames contents tail)
      (hbeat : IsBeat message) (hsize : t.wire.incoming.length < s.wire.incoming.length)
      (hending : t.wire.ending = s.wire.ending) : Reads s future contents tail (.ok message, t)
  /-- It gives the next content. -/
  | content {t : Socket} {content : Content} {frames : List Frame} {rest : List Content}
      (hcontents : contents = content :: rest) (hinflow : Inflow t future frames rest tail) :
      Reads s future contents tail (.ok content.message, t)
  /-- It meets what is behind the frames, or the end of the stream. A frame that is too long is refused. -/
  | beyond {t : Socket} {result : Attempt Error Message} (hcontents : contents = [])
      (hmet : s.wire.ending = .open → Frame.decode (some frameLimit) tail ≠ .unfinished)
      (hlong : s.wire.ending = .open → ∀ length, Frame.decode (some frameLimit) tail = .tooLong length →
        t.phase = .active ∧ result = .error (.messageTooLong length frameLimit)) :
      Reads s future contents tail (result, t)

/-- The answer to what has come before is written first, and this never fails. -/
theorem answerFirst_eq (hactive : s.phase = .active) (hhealthy : s.wire.Healthy) :
    ∃ t, s.answerFirst = (.ok (), t) ∧ Keeps s t := by
  have hkeeps := s.flush_keeps
  unfold answerFirst
  split
  · rcases hflush : s.flush with ⟨value | cause | _, t⟩
    all_goals rw [hflush] at hkeeps
    · exact ⟨t, rfl, hkeeps⟩
    · exact absurd (by rw [hflush]) (s.flush_fares.steady hhealthy hactive cause)
    · exact ⟨_, rfl, { hkeeps with }⟩
  · rw [if_neg (by simp [hactive, Phase.canRead])]
    exact ⟨s, rfl, Keeps.refl s⟩

/-- Goes on behind a frame that is no message yet. -/
def orAgain (again : Socket → Result Message) (message? : Option Message) (t : Socket) : Result Message :=
  match message? with
  | some message => (.ok message, t)
  | none => again t

/-- A stream without a whole frame has to wait, unless the peer has ended it. -/
theorem starve_eq (hhealthy : s.wire.Healthy) :
    s.starve = (.blocked, s) ∨ s.wire.ending = .ended ∧ ∃ cause t, s.starve = (.error cause, t) := by
  unfold starve Net.Wire.wait
  cases hending : s.wire.ending with
  | «open» => exact Or.inl rfl
  | ended => exact Or.inr ⟨rfl, _, _, rfl⟩
  | reset => exact absurd hhealthy.ending (by simp [hending])
  | dead => exact absurd hhealthy.ending (by simp [hending])

theorem Legible.fits {role : Role} (h : Legible role frame) :
    frame.reserved < 8 ∧ frame.payload.length < 0x10000000000000000 ∧
      (some frameLimit).any (· < frame.payload.length) = false := by
  have hshort := h.short
  have hlimit : frameLimit < 0x10000000000000000 := by decide
  refine ⟨by rw [h.reserved]; decide, by omega, ?_⟩
  rw [Option.any_some, decide_eq_false_iff_not]
  omega

/-- A frame that comes is there, or only a part of it. -/
theorem frame_front {role : Role} (hlegible : Legible role frame) {incoming back : Bytes}
    (hstream : incoming ++ future = frame.encode ++ back) :
    (∃ more, Frame.decode (some frameLimit) incoming = .frame frame more ∧ more.length < incoming.length ∧
      more ++ future = back) ∨
    Frame.decode (some frameLimit) incoming = .unfinished ∧ incoming.length < frame.encode.length := by
  obtain ⟨hreserved, hlength, hlimit⟩ := hlegible.fits
  have hsize := Frame.two_le_length_encode frame
  -- both are parts from the front of the same bytes, so the shorter one is a part of the other
  by_cases henough : frame.encode.length ≤ incoming.length
  · left
    obtain ⟨more, hmore⟩ : frame.encode <+: incoming :=
      List.prefix_of_prefix_length_le ⟨_, rfl⟩ ⟨future, hstream⟩ henough
    refine ⟨more, ?_, ?_, ?_⟩
    · rw [← hmore]
      exact Frame.decode_encode hreserved hlength hlimit more
    · rw [← hmore, List.length_append]
      omega
    · rw [← hmore, List.append_assoc] at hstream
      exact List.append_cancel_left hstream
  · -- a proper part of a frame is no frame
    right
    obtain ⟨rest, hrest⟩ : incoming <+: frame.encode :=
      List.prefix_of_prefix_length_le ⟨future, hstream⟩ ⟨_, rfl⟩ (by omega)
    refine ⟨Frame.decode_eq_unfinished hreserved hlength hlimit hrest ?_, by omega⟩
    rintro rfl
    rw [List.append_nil] at hrest
    exact henough (Nat.le_of_eq (by rw [hrest]))

/-- The next frame is there, or only a part of it. -/
theorem Unread.front (h : Unread s future (frame :: frames) contents tail) :
    (∃ more, Frame.decode (some frameLimit) s.wire.incoming = .frame frame more ∧
      more.length < s.wire.incoming.length ∧ more ++ future = frames.flatMap Frame.encode ++ tail) ∨
    Frame.decode (some frameLimit) s.wire.incoming = .unfinished ∧
      s.wire.incoming.length < frame.encode.length := by
  have hstream := h.stream
  rw [List.flatMap_cons, List.append_assoc] at hstream
  exact frame_front (h.legible frame List.mem_cons_self) hstream

/-- Behind the last frame, the bytes are those of the tail. What they amount to, the tail does. -/
theorem Unread.decode_tail (h : Unread s future [] contents tail)
    (hread : Frame.decode (some frameLimit) s.wire.incoming ≠ .unfinished) :
    Frame.decode (some frameLimit) tail = (Frame.decode (some frameLimit) s.wire.incoming).followed future := by
  have hstream : s.wire.incoming ++ future = tail := h.stream
  rw [← hstream]
  exact Frame.decode_append hread future

/-- No frames carry nothing. -/
theorem Unread.contents_nil (h : Unread s future [] contents tail) : contents = [] := by
  obtain ⟨under, _, hcarries⟩ := h.expects
  cases hcarries
  rfl

/-- A frame that has arrived is there. -/
theorem Unread.not_starved (h : Unread s [] (frame :: frames) contents tail) : ¬ Starved s := by
  intro hstarved
  rcases h.front with ⟨more, hdecode, _⟩ | ⟨_, hsize⟩
  · unfold Starved at hstarved
    rw [hstarved] at hdecode
    cases hdecode
  · have hstream := congrArg List.length h.stream
    simp only [List.flatMap_cons, List.length_append, List.length_nil] at hstream
    omega

/-- Who has to wait when everything has arrived has read everything, and the tail is no frame yet. -/
theorem Unread.starved (h : Unread s [] frames contents tail) (hstarved : Starved s) :
    contents = [] ∧ Frame.decode (some frameLimit) tail = .unfinished := by
  cases frames with
  | nil =>
    have hincoming : s.wire.incoming = tail := (List.append_nil _).symm.trans h.stream
    refine ⟨h.contents_nil, ?_⟩
    rw [← hincoming]
    exact hstarved
  | cons frame frames => exact absurd hstarved h.not_starved

/-- A frame has been taken from the stream. -/
theorem Unread.take (h : Unread s future (frame :: frames) contents tail) {more : Bytes} {rest : List Content}
    (hmore : more ++ future = frames.flatMap Frame.encode ++ tail) (halike : Alike (s.taken more) t)
    (hexpects : Expects t.assembly frames rest) : Unread t future frames rest tail where
  stream := by
    rw [halike.wire]
    exact hmore
  legible other hmem := by
    rw [halike.role]
    exact h.legible other (List.mem_cons_of_mem _ hmem)
  expects := hexpects
  active := halike.phase.trans h.active
  going := halike.ended.trans h.going
  final hended := h.final (by rw [halike.wire] at hended; exact hended)

theorem Inflow.take (h : Inflow s future (frame :: frames) contents tail) {more : Bytes} {rest : List Content}
    (hmore : more ++ future = frames.flatMap Frame.encode ++ tail) (halike : Alike (s.taken more) t)
    (hexpects : Expects t.assembly frames rest) : Inflow t future frames rest tail := by
  refine ⟨h.toUnread.take hmore halike hexpects, ?_⟩
  rw [halike.wire]
  exact ⟨h.healthy.ending, h.healthy.shut⟩

/-- **How far a read comes** that begins with a socket: it has to wait for a frame, gives a message, or has taken the
    last of the frames. -/
inductive Reaches (s : Socket) (future : Bytes) (contents : List Content) (tail : Bytes) : Result Message → Prop where
  /-- It has to wait for the next frame. -/
  | waits {t : Socket} {frame : Frame} {frames : List Frame}
      (hinflow : Inflow t future (frame :: frames) contents tail) (hstarved : Starved t) :
      Reaches s future contents tail (.blocked, t)
  /-- It gives a ping or a pong. -/
  | beat {t : Socket} {message : Message} {frames : List Frame} (hinflow : Inflow t future frames contents tail)
      (hbeat : IsBeat message) (hsize : t.wire.incoming.length < s.wire.incoming.length)
      (hending : t.wire.ending = s.wire.ending) : Reaches s future contents tail (.ok message, t)
  /-- It gives the next content. -/
  | content {t : Socket} {content : Content} {frames : List Frame} {rest : List Content}
      (hcontents : contents = content :: rest) (hinflow : Inflow t future frames rest tail) :
      Reaches s future contents tail (.ok content.message, t)
  /-- It looks for a frame behind the last one. -/
  | last {t : Socket} (again : Socket → Result Message) (hinflow : Inflow t future [] contents tail)
      (hsize : t.wire.incoming.length ≤ s.wire.incoming.length) (hending : t.wire.ending = s.wire.ending)
      (hrole : t.role = s.role) : Reaches s future contents tail (t.takeFrame.andThen (orAgain again))

/-- **What taking a frame comes to**: nothing yet, or what a read may come to, however it goes on otherwise. -/
theorem takeFrame_reaches (h : Inflow s future frames contents tail) (again : Socket → Result Message) :
    (∃ t frames', s.takeFrame = (.ok none, t) ∧ Inflow t future frames' contents tail ∧
      t.wire.incoming.length < s.wire.incoming.length ∧ t.wire.ending = s.wire.ending ∧ t.role = s.role) ∨
    Reaches s future contents tail (s.takeFrame.andThen (orAgain again)) := by
  cases frames with
  | nil => exact Or.inr (.last again h (Nat.le_refl _) rfl rfl)
  | cons frame frames =>
    rw [takeFrame_eq]
    rcases h.front with ⟨more, hdecode, hsize, hmore⟩ | ⟨hdecode, hsize⟩
    · rw [hdecode]
      simp only
      obtain ⟨message?, t, hreceive, halike, hnext⟩ :=
        receive_expected (s := s.taken more) (h.legible frame List.mem_cons_self) h.active h.expects
      rw [hreceive]
      have hless : t.wire.incoming.length < s.wire.incoming.length := by
        rw [halike.wire]
        exact hsize
      have hending : t.wire.ending = s.wire.ending := by
        rw [halike.wire]
        rfl
      rcases hnext with ⟨hbeat, hexpects⟩ | ⟨content, rest, hcontents, rfl, hexpects⟩
      · -- a part of a message is no message, and reading goes on
        have hinflow := h.take hmore halike hexpects
        cases message? with
        | none => exact Or.inl ⟨t, frames, rfl, hinflow, hless, hending, halike.role⟩
        | some message => exact Or.inr (.beat hinflow (hbeat message rfl) hless hending)
      · exact Or.inr (.content hcontents (h.take hmore halike hexpects))
    · right
      rw [hdecode]
      simp only
      rcases s.starve_eq h.healthy with hwait | ⟨hended, _⟩
      · rw [hwait]
        exact .waits h hdecode
      · -- nothing more comes, but the frame is not there
        have hnone := h.final hended
        subst hnone
        exact absurd hdecode h.not_starved

/-- A read that has begun before comes as far. -/
theorem Reaches.since {result : Result Message} (h : Reaches t future contents tail result)
    (hsize : t.wire.incoming.length ≤ s.wire.incoming.length) (hending : t.wire.ending = s.wire.ending)
    (hrole : t.role = s.role) : Reaches s future contents tail result := by
  cases h with
  | waits hinflow hstarved => exact .waits hinflow hstarved
  | beat hinflow hbeat hless hsame =>
    exact .beat hinflow hbeat (Nat.lt_of_lt_of_le hless hsize) (hsame.trans hending)
  | content hcontents hinflow => exact .content hcontents hinflow
  | last again hinflow hless hsame hrole' =>
    exact .last again hinflow (Nat.le_trans hless hsize) (hsame.trans hending) (hrole'.trans hrole)

/-- **A read comes as far as its frames.** The induction is on the frames that it may take. -/
theorem readWith_reaches (fuel : Nat) (h : Inflow s future frames contents tail)
    (hfuel : s.wire.incoming.length < fuel) : Reaches s future contents tail (s.readWith fuel) := by
  induction fuel generalizing s frames with
  | zero => omega
  | succ fuel ih =>
    obtain ⟨t, hanswer, hkeeps⟩ := answerFirst_eq h.active h.healthy
    have hsame := hkeeps.incoming
    have hending := (hkeeps.healthy h.healthy).2
    rw [readWith_eq, hanswer]
    show Reaches s _ _ _ (t.takeFrame.andThen (orAgain fun u => u.readWith fuel))
    rcases takeFrame_reaches (h.keeps hkeeps) fun u => u.readWith fuel with
      ⟨u, frames', htake, hinflow, hless, hending', hrole⟩ | hreaches
    · rw [htake]
      rw [hsame] at hless
      have hreaches := ih hinflow (by omega)
      exact hreaches.since (Nat.le_of_lt hless) (hending'.trans hending) (hrole.trans hkeeps.role)
    · exact hreaches.since (Nat.le_of_eq (by rw [hsame])) hending hkeeps.role

theorem read_reaches (h : Inflow s future frames contents tail) : Reaches s future contents tail s.read := by
  unfold read
  rw [if_neg (by rw [h.active]; simp)]
  exact readWith_reaches _ h (Nat.lt_succ_self _)

/-- Behind the last frame, a read has to wait, or it meets what is behind. -/
theorem takeFrame_beyond (h : Inflow s future [] contents tail) (again : Socket → Result Message) :
    Reads s future contents tail (s.takeFrame.andThen (orAgain again)) := by
  rw [takeFrame_eq]
  have hbeyond := h.contents_nil
  have hverdict := h.decode_tail
  cases hdecode : Frame.decode (some frameLimit) s.wire.incoming with
  | unfinished =>
    rcases s.starve_eq h.healthy with hwait | ⟨hended, cause, t, hfail⟩
    · rw [hwait]
      exact .waits h hdecode
    · rw [hfail]
      exact .beyond hbeyond (fun hopen => by rw [hended] at hopen; cases hopen)
        fun hopen => by rw [hended] at hopen; cases hopen
  | tooLong length =>
    rw [hdecode] at hverdict
    have htail : Frame.decode (some frameLimit) tail = .tooLong length := hverdict (by simp)
    refine .beyond hbeyond (fun _ => by rw [htail]; simp) fun _ length' hlong => ?_
    rw [htail] at hlong
    cases hlong
    exact ⟨h.active, rfl⟩
  | badOpcode code =>
    rw [hdecode] at hverdict
    have htail : Frame.decode (some frameLimit) tail = .badOpcode code := hverdict (by simp)
    exact .beyond hbeyond (fun _ => by rw [htail]; simp) fun _ _ hlong => by rw [htail] at hlong; cases hlong
  | frame frame more =>
    rw [hdecode] at hverdict
    have htail : Frame.decode (some frameLimit) tail = .frame frame (more ++ future) := hverdict (by simp)
    exact .beyond hbeyond (fun _ => by rw [htail]; simp) fun _ _ hlong => by rw [htail] at hlong; cases hlong

/-- A read that has begun before comes to the same. -/
theorem Reads.since {result : Result Message} (h : Reads t future contents tail result)
    (hsize : t.wire.incoming.length ≤ s.wire.incoming.length) (hending : t.wire.ending = s.wire.ending) :
    Reads s future contents tail result := by
  cases h with
  | waits hinflow hstarved => exact .waits hinflow hstarved
  | beat hinflow hbeat hless hsame =>
    exact .beat hinflow hbeat (Nat.lt_of_lt_of_le hless hsize) (hsame.trans hending)
  | content hcontents hinflow => exact .content hcontents hinflow
  | beyond hcontents hmet hlong =>
    rw [hending] at hmet hlong
    exact .beyond hcontents hmet hlong

/-- **A read does one of four things.** -/
theorem read_reads (h : Inflow s future frames contents tail) : Reads s future contents tail s.read := by
  have hreaches := read_reaches h
  generalize s.read = result at hreaches
  cases hreaches with
  | waits hinflow hstarved => exact .waits hinflow hstarved
  | beat hinflow hbeat hsize hending => exact .beat hinflow hbeat hsize hending
  | content hcontents hinflow => exact .content hcontents hinflow
  | last again hinflow hsize hending _ => exact (takeFrame_beyond hinflow again).since hsize hending

end inflow

end TextSocket.Socket
