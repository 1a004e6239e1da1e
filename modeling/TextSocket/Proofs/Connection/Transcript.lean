import TextSocket.Proofs.Connection.Sending

/-!
# `Proofs.Connection.Transcript` — the frames on the stream

Under every schedule **the stream carries whole frames** (`transcript_run`), the last one perhaps in part. Each text is
that of one write, whole, once, and in turn, and a write that has done its work has its frame there. Behind a close
frame there are only pongs.

A write that waits for room may be told that the stream has ended in order, when the peer has sent a close frame and
then resets the stream. Nothing else keeps a write that has done its work from having its frame there.

## Contents

* `isCut_run` — only the peer cuts off a stream;
* `Transcript`, `transcript_run` — the frames on the stream.
-/

namespace TextSocket.Connection

open Socket (Fits)

/-- **A stream is cut off only by its peer.** -/
theorem isCut_run (c : Connection) {events : List Event} (hcalm : .peer .reset ∉ events) :
    ((History.start c).run events).connection.socket.wire.ending.isCut = c.socket.wire.ending.isCut := by
  refine History.run_of_move (P := fun h => h.connection.socket.wire.ending.isCut = c.socket.wire.ending.isCut)
    (Q := fun event => event ≠ .peer .reset) ?_ ?_ rfl (fun event hmem he => hcalm (he ▸ hmem))
  · intro h now n call stage c' hsame _ hmove
    show c'.socket.wire.ending.isCut = _
    rw [hmove.advances.ending.isCut_eq]
    exact hsame
  · intro h event hsame hevent hstep
    cases event with
    | step now n => exact absurd rfl (hstep now n)
    | enter call => exact hsame
    | peer act =>
      show (act.apply h.connection.socket.wire).ending.isCut = _
      rw [(act.affects _).isCut_eq fun he => hevent (by rw [he])]
      exact hsame

/-! ## The frames on the stream -/

/-- **What is on the stream** behind the bytes `base`, in the role of the socket: whole frames, the last one perhaps
    in part. -/
structure Transcript (base : Bytes) (role : Socket.Role) (h : History) (posts : List Post) : Prop where
  /-- The stream carries a part from the front of these frames. -/
  onWire : h.connection.socket.wire.outgoing <+: base ++ bytesOf posts
  /-- The protocol allows each of them. -/
  wellFormed : ∀ post ∈ posts, post.frame.WellFormed
  /-- They are masked exactly if a client sends them. -/
  masked : ∀ post ∈ posts, post.frame.mask.isSome = true ↔ role = .client
  /-- Each is a text, a close frame or a pong. -/
  kind : ∀ post ∈ posts, post.frame.opcode = .text ∨ post.frame.opcode = .close ∨ post.frame.opcode = .pong
  /-- A text frame is no fragment, and carries the whole text of a write. -/
  authored : ∀ post ∈ posts, post.frame.opcode = .text → post.frame.final = true ∧
    ∃ n text, post.author = some n ∧ h.connection.textOf n = some text ∧ post.frame.payload = Bytes.ofText text
  /-- No write has its text in two frames. -/
  once : (authors posts).Nodup
  /-- The texts stand in the order in which their writes have obtained the writing half. -/
  inTurn : (authors posts).Sublist (h.order .writing)
  /-- A write that has done its work has its frame on the stream. When the peer resets the stream behind its own close
      frame, a write that waits for room ends as if that were in order, so a stream that is dead is left out. -/
  delivered : ∀ n text, h.connection.At n (.write text) (.finished .done) →
    h.connection.socket.wire.ending ≠ .dead → Delivered base posts h.connection.socket.wire.outgoing n
  /-- Behind a close frame there are only pongs, so there is one at most and no text behind it. -/
  closing : posts.Pairwise fun post later => post.frame.opcode = .close → later.frame.opcode = .pong

/-- **The frames with their authors are what is on the stream.** -/
theorem Sending.transcript {base : Bytes} {role : Socket.Role} {h : History} {posts : List Post} {owner : Option Nat}
    (hsend : Sending base role h posts owner) (ht : Turns h) : Transcript base role h posts := by
  have hout := hsend.ledger.outbound
  have hproper : ∀ post ∈ posts, post.frame.Proper :=
    fun post hmem => hout.proper _ (List.mem_append_left _ (List.mem_map_of_mem hmem))
  have hauthors : (authors posts).Sublist (authors posts ++ owner.toList) := List.sublist_append_left _ _
  constructor
  case onWire =>
    have hwritten := hout.written
    rw [← bytesOf_eq] at hwritten
    rw [← hwritten]
    exact List.prefix_append _ _
  case wellFormed => exact fun post hmem => (hproper post hmem).toWellFormed
  case masked =>
    intro post hmem
    rw [hout.masked _ (List.mem_map_of_mem hmem), hsend.role]
  case kind => exact fun post hmem => (hproper post hmem).kind
  case authored =>
    intro post hmem htext
    exact ⟨(hproper post hmem).final, hsend.ledger.authored post hmem htext⟩
  case once => exact (hauthors.trans hsend.ordered).nodup (ht.nodup .writing)
  case inTurn => exact hauthors.trans hsend.ordered
  case delivered =>
    intro n text hat halive
    exact (hsend.done hat).resolve_right halive
  case closing =>
    have horder := (List.pairwise_append.mp hout.order).1
    exact List.pairwise_map.mp horder

/-- **The stream carries whole frames**, under every schedule, and whatever the peer does. Unless it resets the
    stream, every write that has done its work has its frame there. -/
theorem transcript_run (id : ConnectionId) (config : Config) (role : Socket.Role) (wire : Net.Wire)
    (threshold : Nat) (keys : Nat → MaskKey) (events : List Event)
    (hfits : ∀ text, .enter (.write text) ∈ events → Fits text) {h : History}
    (hrun : h = (History.start (ofSocket id config (Socket.ofWire role wire threshold keys))).run events) :
    ∃ posts, Transcript wire.outgoing role h posts ∧
      (wire.ending.isCut = false → .peer .reset ∉ events → ∀ n text, h.connection.At n (.write text) (.finished .done) →
        Delivered wire.outgoing posts h.connection.socket.wire.outgoing n) := by
  obtain ⟨ht, _, _, posts, owner, hsend⟩ := (sends_start id config role wire threshold keys).run hfits
  rw [← hrun] at ht hsend
  refine ⟨posts, hsend.transcript ht, fun hwhole hcalm n text hat => (hsend.done hat).resolve_right fun hdead => ?_⟩
  -- a dead stream has been reset
  have hsame := isCut_run (ofSocket id config (Socket.ofWire role wire threshold keys)) hcalm
  rw [← hrun, hdead] at hsame
  have hreset : wire.ending.isCut = true := hsame.symm
  rw [hwhole] at hreset
  cases hreset

/-- A write is given up with three bytes of its frame on the stream, and the next one goes on from there. -/
theorem transcript_run_of_cut : ∃ h posts,
    h = (History.start (ofSocket (.random 0) .default
        (Socket.ofWire .server { Net.Wire.fresh with room := some 3 } 0 fun _ => ⟨0, 0, 0, 0⟩))).run
        [.enter (.write "hello"), .step 0 0, .step 0 0, .step 0 0, .step 60000000000 0, .enter (.write "again"),
          .peer (.widen 20), .step 0 1, .step 0 1, .step 0 1] ∧
      Transcript [] .server h posts ∧ Delivered [] posts h.connection.socket.wire.outgoing 1 := by
  have hfits : ∀ text, .enter (.write text) ∈ ([.enter (.write "hello"), .step 0 0, .step 0 0, .step 0 0,
      .step 60000000000 0, .enter (.write "again"), .peer (.widen 20), .step 0 1, .step 0 1, .step 0 1] : List Event) →
      Fits text := by
    intro text hmem
    have htext : text = "hello" ∨ text = "again" := by simpa using hmem
    rcases htext with rfl | rfl
    · unfold Fits
      decide
    · unfold Fits
      decide
  obtain ⟨posts, htranscript, hdelivered⟩ := transcript_run (.random 0) .default .server
    { Net.Wire.fresh with room := some 3 } 0 (fun _ => ⟨0, 0, 0, 0⟩) _ hfits rfl
  refine ⟨_, posts, rfl, htranscript, hdelivered rfl (by simp) 1 "again" ?_⟩
  rfl

end TextSocket.Connection
