import TextSocket.Proofs.Frame.Codec
import TextSocket.Proofs.Socket.Outbox
import TextSocket.Socket.Halves

/-!
# `Proofs.Socket.Outbound` — the frames that a socket has written

Whatever happens to a socket, the bytes that it has written are those of whole frames, one behind the other
(`Outbound`). The frames are ones that the protocol allows, masked exactly if a client writes them, and behind a
close frame there is nothing but pongs. The invariant speaks of the reply that waits as well, since it may go out
with any later operation.

An operation is described by the texts that it adds (`Posts`): reading, flushing and closing add none, and writing
a text adds that one.

## Contents

* `Frame.Proper`, `Outbound` — the frames of one end, and the invariant;
* `Posts` — what an operation adds to them;
* `Answers` — what a frame that comes in adds to them later;
* `flush_posts`, `write_posts`, `close_posts`, `next_posts` — the operations one by one.
-/

namespace TextSocket

/-! ## Frames of one end -/

namespace Frame

/-- A frame that a socket may write: one that the protocol allows, never a fragment, and a text, a close frame or
    a pong. -/
structure Proper (frame : Frame) : Prop extends WellFormed frame where
  /-- It is not a fragment. -/
  final : frame.final = true
  /-- It is a text, a close frame or a pong. -/
  kind : frame.opcode = .text ∨ frame.opcode = .close ∨ frame.opcode = .pong

theorem proper_bare {frame : Frame} : frame.bare.Proper ↔ frame.Proper :=
  ⟨fun h => ⟨⟨h.reserved, h.length, h.control⟩, h.final, h.kind⟩,
    fun h => ⟨⟨h.reserved, h.length, h.control⟩, h.final, h.kind⟩⟩

/-- What may stand behind a frame: anything, but only pongs behind a close frame. -/
def MayPrecede (frame next : Frame) : Prop := frame.opcode = .close → next.opcode = .pong

end Frame

/-- The payloads of the text frames among some frames. -/
def textsOf (frames : List Frame) : List Bytes :=
  (frames.filter (·.opcode = .text)).map Frame.payload

theorem textsOf_append (frames more : List Frame) : textsOf (frames ++ more) = textsOf frames ++ textsOf more := by
  simp [textsOf]

theorem textsOf_bare (frames : List Frame) : textsOf (frames.map Frame.bare) = textsOf frames := by
  induction frames with
  | nil => rfl
  | cons frame frames ih =>
    unfold textsOf at ih ⊢
    by_cases h : frame.opcode = .text
    · simp only [List.map_cons, List.filter_cons, Frame.bare, h, decide_true, if_true, List.cons.injEq, true_and]
      exact ih
    · simp only [List.map_cons, List.filter_cons, Frame.bare, h, decide_false, Bool.false_eq_true, if_false]
      exact ih

namespace Socket

open Net (Attempt Wire)

/-! ## The invariant -/

/-- **The frames that a socket has written** behind the bytes `base`, which were on the stream before. -/
structure Outbound (base : Bytes) (s : Socket) (frames : List Frame) : Prop where
  /-- What has been written are whole frames. -/
  written : s.written = base ++ frames.flatMap Frame.encode
  /-- They are ones that a socket may write, and so is the reply that waits. -/
  proper : ∀ frame ∈ frames ++ s.reply.toList, frame.Proper
  /-- They are masked exactly if a client writes them. -/
  masked : ∀ frame ∈ frames, frame.mask.isSome = true ↔ s.role = .client
  /-- No text waits as a reply. -/
  reply : ∀ frame ∈ s.reply, frame.opcode ≠ .text
  /-- Behind a close frame there are only pongs. -/
  order : (frames ++ s.reply.toList).Pairwise Frame.MayPrecede
  /-- Without a close frame the connection is not being closed. -/
  opening : s.phase = .active → ∀ frame ∈ frames ++ s.reply.toList, frame.opcode ≠ .close

/-- At the start nothing has been written. -/
theorem outbound_start (role : Role) (wire : Net.Wire) (threshold : Nat) (keys : Nat → MaskKey) :
    Outbound wire.outgoing (.ofWire role wire threshold keys) [] where
  written := rfl
  proper frame hmem := by cases hmem
  masked frame hmem := by cases hmem
  reply frame hmem := by cases hmem
  order := List.Pairwise.nil
  opening _ frame hmem := by cases hmem

/-- Changes that writing does not see. -/
theorem Outbound.congr {base : Bytes} {s t : Socket} {frames : List Frame} (h : Outbound base s frames)
    (hwritten : t.written = s.written) (hreply : t.reply = s.reply) (hrole : t.role = s.role)
    (hphase : t.phase = .active → s.phase = .active) : Outbound base t frames where
  written := hwritten.trans h.written
  proper := by rw [hreply]; exact h.proper
  masked := by rw [hrole]; exact h.masked
  reply := by rw [hreply]; exact h.reply
  order := by rw [hreply]; exact h.order
  opening hp := by rw [hreply]; exact h.opening (hphase hp)

/-- Every frame of a list has a property that masks have nothing to do with, if its bare form has it. -/
theorem forall_of_bare {P : Frame → Prop} (hP : ∀ frame, P frame.bare ↔ P frame) {frames : List Frame}
    (h : ∀ frame ∈ frames.map Frame.bare, P frame) : ∀ frame ∈ frames, P frame :=
  fun frame hmem => (hP frame).mp (h frame.bare (List.mem_map_of_mem hmem))

theorem bare_of_forall {P : Frame → Prop} (hP : ∀ frame, P frame.bare ↔ P frame) {frames : List Frame}
    (h : ∀ frame ∈ frames, P frame) : ∀ frame ∈ frames.map Frame.bare, P frame := by
  intro bare hmem
  obtain ⟨frame, hframe, rfl⟩ := List.mem_map.mp hmem
  exact (hP frame).mpr (h frame hframe)

/-- Up to masks, the frames behind writing are those before it and the caller's own. -/
theorem Sends.bare_eq {s t : Socket} {own sent : List Frame} (k : Sends s own t sent) (frames : List Frame) :
    (frames ++ sent ++ t.reply.toList).map Frame.bare = (frames ++ (own ++ s.reply.toList)).map Frame.bare := by
  simp only [List.map_append, List.append_assoc]
  rw [k.accounted]

/-- What holds of the frames before writing and of the caller's own frames, masks aside, holds of those behind it. -/
theorem Sends.forall_frames {s t : Socket} {own sent frames : List Frame} (k : Sends s own t sent)
    {P : Frame → Prop} (hP : ∀ frame, P frame.bare ↔ P frame) (hbefore : ∀ frame ∈ frames ++ s.reply.toList, P frame)
    (hown : ∀ frame ∈ own, P frame) : ∀ frame ∈ frames ++ sent ++ t.reply.toList, P frame := by
  refine forall_of_bare hP ?_
  rw [k.bare_eq]
  refine bare_of_forall hP fun frame hmem => ?_
  rcases List.mem_append.mp hmem with hm | hm
  · exact hbefore frame (List.mem_append_left _ hm)
  · rcases List.mem_append.mp hm with hm | hm
    · exact hown frame hm
    · exact hbefore frame (List.mem_append_right _ hm)

/-- **Writing keeps the invariant**, if the caller's own frames may stand where they come to stand. -/
theorem Outbound.sends {base : Bytes} {s t : Socket} {frames own sent : List Frame}
    (h : Outbound base s frames) (k : Sends s own t sent) (hproper : ∀ frame ∈ own, frame.Proper)
    (horder : (frames ++ (own ++ s.reply.toList)).Pairwise Frame.MayPrecede)
    (hopening : s.phase = .active → ∀ frame ∈ own, frame.opcode ≠ .close) :
    Outbound base t (frames ++ sent) := by
  constructor
  case written => rw [k.written, h.written, List.flatMap_append, List.append_assoc]
  case proper => exact k.forall_frames (fun _ => Frame.proper_bare) h.proper hproper
  case masked =>
    intro frame hmem
    rw [k.keeps.role]
    rcases List.mem_append.mp hmem with hm | hm
    · exact h.masked frame hm
    · exact k.masked frame hm
  case reply =>
    rcases k.replied with hr | hr
    · rw [hr]
      intro frame hmem
      cases hmem
    · rw [hr]
      exact h.reply
  case order =>
    have hbare := (List.pairwise_map (f := Frame.bare) (R := Frame.MayPrecede)).mpr horder
    rw [← k.bare_eq] at hbare
    exact (List.pairwise_map (f := Frame.bare) (R := Frame.MayPrecede)).mp hbare
  case opening =>
    intro hp
    have hp : s.phase = .active := k.keeps.active.mp hp
    exact k.forall_frames (P := fun frame => frame.opcode ≠ .close) (fun _ => Iff.rfl) (h.opening hp) (hopening hp)

/-- The texts among the frames written are those of the caller. -/
theorem Outbound.textsOf_sent {base : Bytes} {s t : Socket} {frames own sent : List Frame}
    (h : Outbound base s frames) (k : Sends s own t sent) : textsOf sent = textsOf own := by
  have silent : ∀ reply : Option Frame, (∀ frame ∈ reply, frame.opcode ≠ .text) →
      textsOf (reply.toList.map Frame.bare) = [] := by
    intro reply hreply
    rw [textsOf_bare]
    cases reply with
    | none => rfl
    | some frame => simp [textsOf, hreply frame rfl]
  have hs := silent s.reply h.reply
  have ht : textsOf (t.reply.toList.map Frame.bare) = [] := by
    rcases k.replied with hr | hr
    · rw [hr]; rfl
    · rw [hr]; exact hs
  have hlist := congrArg textsOf k.accounted
  rwa [textsOf_append, textsOf_append, hs, ht, List.append_nil, List.append_nil, textsOf_bare,
    textsOf_bare] at hlist

/-- Behind frames none of which is a close frame anything may stand. -/
theorem pairwise_insert {frames back : List Frame} {frame : Frame}
    (h : (frames ++ back).Pairwise Frame.MayPrecede) (hclear : ∀ other ∈ frames, other.opcode ≠ .close)
    (hback : ∀ other ∈ back, frame.MayPrecede other) :
    (frames ++ frame :: back).Pairwise Frame.MayPrecede := by
  obtain ⟨hf, hb, hfb⟩ := List.pairwise_append.mp h
  refine List.pairwise_append.mpr ⟨hf, List.pairwise_cons.mpr ⟨hback, hb⟩, ?_⟩
  intro other hother next hnext hclose
  exact absurd hclose (hclear other hother)

/-- A reply that takes the place of the one that waits, while no close frame has been written. -/
theorem Outbound.withReply {base : Bytes} {s : Socket} {frames : List Frame} {frame : Frame}
    (h : Outbound base s frames) (hclear : ∀ other ∈ frames, other.opcode ≠ .close) (hframe : frame.Proper)
    (htext : frame.opcode ≠ .text) (phase : Phase) (hphase : phase = .active → frame.opcode ≠ .close) :
    Outbound base { s with phase, reply := some frame } frames where
  written := h.written
  proper other hmem := by
    rcases List.mem_append.mp hmem with hm | hm
    · exact h.proper other (List.mem_append_left _ hm)
    · cases List.mem_singleton.mp hm
      exact hframe
  masked := h.masked
  reply other hmem := by
    cases hmem
    exact htext
  order := by
    have hframes : (frames ++ []).Pairwise Frame.MayPrecede := by
      rw [List.append_nil]
      exact (List.pairwise_append.mp h.order).1
    exact pairwise_insert hframes hclear (by simp)
  opening hp other hmem := by
    rcases List.mem_append.mp hmem with hm | hm
    · exact hclear other hm
    · cases List.mem_singleton.mp hm
      exact hphase hp

/-! ## What an operation adds -/

/-- What never goes back: bytes on the stream stay there, and at most a reset is noticed. -/
structure Advances (s t : Socket) : Prop where
  /-- Bytes on the stream stay there. -/
  onWire : s.wire.outgoing <+: t.wire.outgoing
  /-- At most a reset is noticed. -/
  ending : s.wire.ending.Notes t.wire.ending
  /-- The role is the same. -/
  role : t.role = s.role
  /-- A connection that is being closed stays so. -/
  active : t.phase = .active → s.phase = .active
  /-- A stream that is not healthy takes nothing. -/
  stuck : s.wire.Stuck t.wire

theorem Advances.refl (s : Socket) : Advances s s := ⟨List.prefix_rfl, .refl _, rfl, id, .refl _⟩

theorem Advances.trans {s t u : Socket} (h : Advances s t) (k : Advances t u) : Advances s u :=
  ⟨h.onWire.trans k.onWire, h.ending.trans k.ending, k.role.trans h.role, h.active ∘ k.active, h.stuck.trans k.stuck⟩

theorem Keeps.advances {s t : Socket} (k : Keeps s t) : Advances s t :=
  ⟨k.onWire, k.ending, k.role, k.active.mp, k.stuck⟩

/-- **An operation that adds texts**: it keeps the invariant, and the text frames that it adds are these. -/
structure Posts (s : Socket) (texts : List Bytes) (t : Socket) : Prop where
  /-- Nothing goes back. -/
  advances : Advances s t
  /-- The frames are extended by some with these texts. -/
  outbound : ∀ {base frames}, Outbound base s frames →
    ∃ more, Outbound base t (frames ++ more) ∧ textsOf more = texts

theorem Posts.refl (s : Socket) : Posts s [] s :=
  ⟨Advances.refl s, fun h => ⟨[], by rwa [List.append_nil], rfl⟩⟩

theorem Posts.trans {s t u : Socket} {texts more : List Bytes} (h : Posts s texts t) (k : Posts t more u) :
    Posts s (texts ++ more) u := by
  refine ⟨h.advances.trans k.advances, fun hs => ?_⟩
  obtain ⟨sent, ht, hsent⟩ := h.outbound hs
  obtain ⟨sent', hu, hsent'⟩ := k.outbound ht
  exact ⟨sent ++ sent', by rwa [← List.append_assoc], by rw [textsOf_append, hsent, hsent']⟩

/-- An operation that adds nothing, behind another one. -/
theorem Posts.trans_nil {s t u : Socket} {texts : List Bytes} (h : Posts s texts t) (k : Posts t [] u) :
    Posts s texts u := by
  have both := h.trans k
  rwa [List.append_nil] at both

/-- Changes that writing does not see add nothing. -/
theorem Posts.of_congr {s t : Socket} (hwire : t.wire.outgoing = s.wire.outgoing) (hshut : t.wire.shut = s.wire.shut)
    (houtbox : t.outbox = s.outbox) (hreply : t.reply = s.reply) (hrole : t.role = s.role)
    (hphase : t.phase = .active → s.phase = .active)
    (hending : s.wire.ending.Notes t.wire.ending) : Posts s [] t := by
  have hwritten : t.written = s.written := by
    unfold Socket.written
    rw [hwire, houtbox]
  refine ⟨⟨hwire ▸ List.prefix_rfl, hending, hrole, hphase, Wire.stuck_of_notes hending hshut hwire⟩,
    fun h => ⟨[], ?_, rfl⟩⟩
  rw [List.append_nil]
  exact h.congr hwritten hreply hrole hphase

/-- Writing without a frame of the caller adds no text. -/
theorem Sends.posts {s t : Socket} {sent : List Frame} (k : Sends s [] t sent) : Posts s [] t := by
  refine ⟨k.keeps.advances, fun h => ⟨sent, ?_, h.textsOf_sent k⟩⟩
  exact h.sends k (by simp) h.order (by simp)

theorem flush_posts (s : Socket) : Posts s [] s.flush.2 := by
  obtain ⟨sent, hsent⟩ := s.flush_sends
  exact hsent.posts

/-- A text that fits into a frame. -/
def Fits (text : String) : Prop := (Bytes.ofText text).length < 0x8000000000000000

theorem proper_textFrame {text : String} (h : Fits text) : (textFrame text).Proper :=
  ⟨⟨rfl, h, fun hcontrol => by cases hcontrol⟩, rfl, Or.inl rfl⟩

/-- **Writing a text adds it**, while nobody closes the connection. -/
theorem write_posts {s : Socket} (h : s.phase = .active) {text : String} (hfits : Fits text) :
    Posts s [Bytes.ofText text] (s.write text).2 := by
  obtain ⟨more, k⟩ := write_sends h text
  refine ⟨k.keeps.advances, fun hs => ⟨_, ?_, hs.textsOf_sent k⟩⟩
  -- the frame is proper, no close frame stands in front of it, and it is none itself
  refine hs.sends k ?_ ?_ ?_
  · intro frame hmem
    cases List.mem_singleton.mp hmem
    exact proper_textFrame hfits
  · have clear := hs.opening h
    refine pairwise_insert hs.order (fun other hm => clear other (List.mem_append_left _ hm)) ?_
    intro other _ hclose
    cases hclose
  · intro _ frame hmem
    cases List.mem_singleton.mp hmem
    exact fun hclose => by cases hclose

/-- **Closing adds no text.** -/
theorem close_posts (s : Socket) : Posts s [] s.close.2 := by
  by_cases h : s.phase = .active
  · obtain ⟨more, k⟩ := close_sends h
    refine ⟨⟨k.keeps.onWire, k.keeps.ending, k.keeps.role, fun _ => h, k.keeps.stuck⟩, fun {base frames} hs => ?_⟩
    -- the phase changes first, and then the close frame is written like any other
    have closing : Outbound base { s with phase := .closedByUs } frames :=
      hs.congr rfl rfl rfl fun hp => by cases hp
    refine ⟨_, closing.sends k ?_ ?_ ?_, closing.textsOf_sent k⟩
    · intro frame hmem
      cases List.mem_singleton.mp hmem
      exact ⟨⟨rfl, by decide, fun _ => ⟨rfl, by decide⟩⟩, rfl, Or.inr (Or.inl rfl)⟩
    · have clear := hs.opening h
      refine pairwise_insert hs.order (fun other hm => clear other (List.mem_append_left _ hm)) ?_
      -- the reply that waits is neither a text nor a close frame, so it is a pong
      intro other hmem _
      have hother := List.mem_append_right frames hmem
      rcases (hs.proper other hother).kind with hk | hk | hk
      · exact absurd hk (hs.reply other (by simpa using hmem))
      · exact absurd hk (clear other hother)
      · exact hk
    · intro hp
      cases hp
  · rw [close_eq_flush h]
    exact s.flush_posts

/-! ## Reading -/

/-- **A frame that comes in adds nothing**; at most a reply to it waits from then on. -/
theorem Outbound.setReply {base : Bytes} {s : Socket} {frames : List Frame} {frame : Frame}
    (h : Outbound base s frames) (hactive : s.phase = .active) (hframe : frame.Proper)
    (htext : frame.opcode ≠ .text) (phase : Phase) (hphase : phase = .active → frame.opcode ≠ .close) :
    Outbound base ({ s with phase }.setReply frame) frames := by
  have clear := h.opening hactive
  have result : { s with phase }.setReply frame = { s with phase, reply := some frame } := by
    unfold Socket.setReply
    cases hreply : s.reply with
    | none => rfl
    | some waiting =>
      -- the reply that waits is neither a text nor a close frame, so it is a pong and gives way
      have hwaiting : waiting ∈ frames ++ s.reply.toList := by simp [hreply]
      have hpong : waiting.opcode = .pong := by
        rcases (h.proper waiting hwaiting).kind with hk | hk | hk
        · exact absurd hk (h.reply waiting hreply)
        · exact absurd hk (clear waiting hwaiting)
        · exact hk
      exact if_pos hpong
  rw [result]
  exact h.withReply (fun other hm => clear other (List.mem_append_left _ hm)) hframe htext phase hphase

/-- The reason that is sent back is not longer than the one that came. -/
theorem length_reply {payload : Bytes} {reason : Option CloseReason} (h : CloseReason.read payload = .ok reason)
    (hshort : payload.length ≤ 125) :
    (CloseReason.payload (reason.map fun r =>
      if CloseReason.isAllowed r.code then r else CloseReason.violation)).length ≤ 125 := by
  unfold CloseReason.read at h
  split at h
  · cases h
    simp [CloseReason.payload]
  · cases h
  · next a b rest =>
    split at h
    · next text htext =>
      cases h
      have hrest := Bytes.ofText_of_text? htext
      simp only [List.length_cons] at hshort
      simp only [Option.map_some]
      split
      · simp only [CloseReason.payload, List.length_append, Bytes.length_ofNat, hrest]
        omega
      · decide
    · cases h

/-- **What a frame that comes in does to what is written**: nothing, or a reply to it waits from then on. -/
inductive Answers (s : Socket) : Socket → Prop where
  /-- It is not answered. -/
  | silent {t : Socket} (hwire : t.wire = s.wire) (hrole : t.role = s.role) (houtbox : t.outbox = s.outbox)
      (hreply : t.reply = s.reply) (hphase : t.phase = .active → s.phase = .active) : Answers s t
  /-- A pong or a close frame is to answer it. -/
  | reply (frame : Frame) (phase : Phase) (hactive : s.phase = .active) (hframe : frame.Proper)
      (htext : frame.opcode ≠ .text) (hphase : phase = .active → frame.opcode ≠ .close) :
      Answers s ({ s with phase }.setReply frame)

theorem Answers.refl (s : Socket) : Answers s s := .silent rfl rfl rfl rfl id

theorem receiveClose_answers {s : Socket} {payload : Bytes} {reason : Option CloseReason}
    (hreason : CloseReason.read payload = .ok reason) (hshort : payload.length ≤ 125) :
    Answers s (s.receiveClose reason).2 := by
  unfold receiveClose
  split
  · next hactive =>
    have short := length_reply hreason hshort
    exact .reply _ .closedByPeer hactive
      ⟨⟨rfl, Nat.lt_of_le_of_lt short (by decide), fun _ => ⟨rfl, short⟩⟩, rfl, Or.inr (Or.inl rfl)⟩
      (fun htext => by cases htext) (fun hp => by cases hp)
  · exact .silent rfl rfl rfl rfl fun hp => by cases hp
  · exact .refl s

theorem receiveControl_answers (s : Socket) (frame : Frame) : Answers s (s.receiveControl frame).2 := by
  unfold receiveControl
  split
  · exact .refl s
  · split
    · exact .refl s
    · next hshort =>
      have hshort : frame.payload.length ≤ 125 := by
        unfold controlLimit at hshort
        omega
      split
      · -- a ping: the pong is as long as it
        simp only
        split
        · next hactive =>
          have hpong : (Frame.whole .pong frame.payload).Proper :=
            ⟨⟨rfl, Nat.lt_of_le_of_lt hshort (by decide), fun _ => ⟨rfl, hshort⟩⟩, rfl, Or.inr (Or.inr rfl)⟩
          exact .reply _ s.phase hactive hpong (fun htext => by cases htext) (fun _ hclose => by cases hclose)
        · exact .refl s
      · exact .refl s
      · split
        · exact .refl s
        · next reason hreason => exact receiveClose_answers hreason hshort

theorem receiveData_answers (s : Socket) (frame : Frame) : Answers s (s.receiveData frame).2 := by
  have extended : ∀ assembly, Answers s (s.extend assembly frame).2 := by
    intro assembly
    unfold extend
    split
    · exact .refl s
    · split
      · exact .silent rfl rfl rfl rfl id
      · exact .silent rfl rfl rfl rfl id
  unfold receiveData
  split
  · exact .refl s
  · exact extended _
  · exact .refl s
  · split
    · exact .refl s
    · exact extended _

theorem receive_answers (s : Socket) (frame : Frame) : Answers s (s.receive frame).2 := by
  unfold receive
  repeat' split
  all_goals first | exact .refl s | exact s.receiveControl_answers frame | exact s.receiveData_answers frame

/-- An answer that waits is one that may be written. -/
theorem Answers.outbound {base : Bytes} {s t : Socket} {frames : List Frame} (h : Answers s t)
    (hs : Outbound base s frames) : Outbound base t frames := by
  cases h with
  | silent hwire hrole houtbox hreply hphase =>
    refine hs.congr ?_ hreply hrole hphase
    unfold written
    rw [hwire, houtbox]
  | reply frame phase hactive hframe htext hphase => exact hs.setReply hactive hframe htext phase hphase

theorem setReply_same (s : Socket) (reply : Frame) :
    (s.setReply reply).wire = s.wire ∧ (s.setReply reply).role = s.role := by
  unfold setReply
  split
  · exact ⟨rfl, rfl⟩
  · split <;> exact ⟨rfl, rfl⟩

/-- A frame that comes in changes nothing on the stream. -/
theorem Answers.same {s t : Socket} (h : Answers s t) : t.wire = s.wire ∧ t.role = s.role := by
  cases h with
  | silent hwire hrole _ _ _ => exact ⟨hwire, hrole⟩
  | reply frame phase _ _ _ _ => exact setReply_same _ frame

/-- No frame that comes in reopens a connection. -/
theorem Answers.active {s t : Socket} (h : Answers s t) : t.phase = .active → s.phase = .active := by
  cases h with
  | silent _ _ _ _ hphase => exact hphase
  | reply _ _ hactive _ _ _ => exact fun _ => hactive

/-- The socket from whose stream bytes have been taken, up to `rest`. -/
def taken (s : Socket) (rest : Bytes) : Socket := { s with wire := s.wire.take rest }

theorem takeFrame_eq (s : Socket) :
    s.takeFrame = match Frame.decode (some frameLimit) s.wire.incoming with
      | .unfinished => s.starve
      | .badOpcode code => (.error (.protocol (.badOpcode code)), s)
      | .tooLong length => (.error (.messageTooLong length frameLimit), s)
      | .frame frame rest =>
        (.ofExcept ((s.taken rest).receive frame).1, ((s.taken rest).receive frame).2) := by
  unfold takeFrame
  cases hdecode : Frame.decode (some frameLimit) s.wire.incoming with
  | unfinished => rfl
  | badOpcode code => rfl
  | tooLong length => rfl
  | frame frame rest =>
    dsimp only
    split
    all_goals next hreceive => rw [taken, hreceive]; rfl

theorem starve_posts (s : Socket) : Posts s [] s.starve.2 := by
  unfold starve Net.Wire.wait
  cases hending : s.wire.ending with
  | «open» => exact Posts.refl s
  | reset => exact Posts.of_congr rfl rfl rfl rfl rfl id (Or.inr ⟨hending, rfl⟩)
  | ended => exact Posts.of_congr rfl rfl rfl rfl rfl (fun hp => by cases hp) (.refl _)
  | dead => exact Posts.of_congr rfl rfl rfl rfl rfl (fun hp => by cases hp) (.refl _)

/-- Taking a frame from the stream adds nothing. -/
theorem takeFrame_posts (s : Socket) : Posts s [] s.takeFrame.2 := by
  rw [takeFrame_eq]
  split
  · exact s.starve_posts
  · exact Posts.refl s
  · exact Posts.refl s
  · -- the frame may leave a reply that waits, but nothing of it has been written
    next frame rest _ =>
    have answers := (s.taken rest).receive_answers frame
    obtain ⟨hwire, hrole⟩ := answers.same
    have hstuck : s.wire.Stuck ((s.taken rest).receive frame).2.wire := by
      rw [hwire]
      exact Wire.stuck_of_notes (.refl _) rfl rfl
    refine ⟨⟨hwire ▸ List.prefix_rfl, hwire ▸ .refl _, hrole, answers.active, hstuck⟩, fun h => ⟨[], ?_, rfl⟩⟩
    rw [List.append_nil]
    exact answers.outbound (h.congr rfl rfl rfl id)

/-- Answering before a frame is taken adds nothing. -/
theorem answerFirst_posts (s : Socket) : Posts s [] s.answerFirst.2 := by
  have flushed := s.flush_posts
  unfold answerFirst
  split
  · rcases hflush : s.flush with ⟨value | cause | _, t⟩
    all_goals rw [hflush] at flushed
    · exact flushed
    · exact flushed
    · exact flushed.trans (Posts.of_congr rfl rfl rfl rfl rfl id (.refl _))
  · split
    · exact Posts.of_congr rfl rfl rfl rfl rfl (fun hp => by cases hp) (.refl _)
    · exact Posts.refl s

theorem readWith_eq (fuel : Nat) (s : Socket) :
    s.readWith (fuel + 1) = s.answerFirst.andThen fun _ t => t.takeFrame.andThen fun message? u =>
      match message? with
      | some message => (.ok message, u)
      | none => u.readWith fuel := by
  rw [readWith]
  rcases s.answerFirst with ⟨value | cause | _, t⟩
  · simp only [Result.andThen]
    rcases t.takeFrame with ⟨(_ | message) | cause | _, u⟩ <;> rfl
  all_goals rfl

/-- **What the steps of reading keep, reading keeps**: answering first, and taking a frame. The induction is on the
    frames that may be taken. -/
theorem read_rel {R : Socket → Socket → Prop} (hrefl : ∀ s, R s s) (htrans : ∀ {s t u}, R s t → R t u → R s u)
    (hanswer : ∀ s : Socket, R s s.answerFirst.2) (htake : ∀ s : Socket, R s s.takeFrame.2) (s : Socket) :
    R s s.read.2 := by
  have hwith : ∀ (fuel : Nat) (s : Socket), R s (s.readWith fuel).2 := by
    intro fuel
    induction fuel with
    | zero => exact hrefl
    | succ fuel ih =>
      intro s
      have hanswered := hanswer s
      rw [readWith_eq]
      rcases hfirst : s.answerFirst with ⟨value | cause | _, t⟩
      all_goals rw [hfirst] at hanswered
      · -- reading goes on only behind a frame that is no message yet
        have htaken := htrans hanswered (htake t)
        show R s (t.takeFrame.andThen _).2
        rcases hframe : t.takeFrame with ⟨(_ | message) | cause | _, u⟩
        all_goals rw [hframe] at htaken
        · exact htrans htaken (ih u)
        · exact htaken
        · exact htaken
        · exact htaken
      · exact hanswered
      · exact hanswered
  unfold read
  split
  · exact hrefl s
  · exact hwith _ s

/-- What reading keeps, the reading half keeps, if noting the end does. -/
theorem next_rel {R : Socket → Socket → Prop} (hrefl : ∀ s, R s s) (htrans : ∀ {s t u}, R s t → R t u → R s u)
    (hanswer : ∀ s : Socket, R s s.answerFirst.2) (htake : ∀ s : Socket, R s s.takeFrame.2)
    (hend : ∀ s : Socket, R s { s with ended := true }) (s : Socket) : R s s.next.2 := by
  have hread := read_rel hrefl htrans hanswer htake s
  unfold next
  split
  · exact hrefl s
  · rcases hresult : s.read with ⟨message | cause | _, t⟩
    all_goals rw [hresult] at hread
    · exact hread
    · exact htrans hread (hend t)
    · exact hread

/-- **Reading adds no text.** -/
theorem next_posts (s : Socket) : Posts s [] s.next.2 :=
  next_rel Posts.refl Posts.trans_nil answerFirst_posts takeFrame_posts
    (fun _ => Posts.of_congr rfl rfl rfl rfl rfl id (.refl _)) s

end Socket

end TextSocket
