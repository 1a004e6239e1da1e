import TextSocket.Proofs.Socket.Ending
import TextSocket.Proofs.Socket.Orderly
import TextSocket.Proofs.Socket.Reading

/-!
# `Proofs.Socket.Farewell` — the end of the peer's stream

The stream of a peer ends behind its last frame, and that is a close frame or it is not. The socket tells the two apart.
Behind a close frame it finds **an orderly end and nothing else** (`next_parted`), whatever of its own answer has been
written by then, since on a healthy stream writing fails in no other way (`flush_orderly`). But a stream that ends without a
close frame has been **cut off, which is a violation of the protocol** (`takeFrame_ends`).

## Contents

* `Parted`, `next_parted` — sockets behind the close frame of the peer;
* `IsFarewell`, `receive_farewell` — the close frame;
* `Ends`, `takeFrame_ends` — the end of the stream.
-/

namespace TextSocket.Socket

open Net (Attempt Wire)

section parted

variable {s t : Socket}

/-! ## Behind the close frame of the peer -/

/-- **A socket that has read the close frame of its peer**, on a healthy stream on which nothing else has arrived. -/
structure Parted (s : Socket) : Prop where
  /-- No frames may come. -/
  silent : s.phase.canRead = false
  /-- The stream is healthy. -/
  healthy : s.wire.Healthy
  /-- Nothing has arrived. -/
  empty : s.wire.incoming = []

theorem Parted.keeps (h : Parted s) (k : Keeps s t) (hlasts : Lasts s t) : Parted t :=
  ⟨hlasts.silent h.silent, (k.healthy h.healthy).1, k.incoming.trans h.empty⟩

/-- Reading brings no bytes. -/
theorem next_empty (s : Socket) : s.wire.incoming = [] → s.next.2.wire.incoming = [] := by
  refine next_rel (R := fun s t => s.wire.incoming = [] → t.wire.incoming = []) (fun _ h => h)
    (fun h k => k ∘ h) (fun s hempty => ?_) (fun s hempty => ?_) (fun _ h => h) s
  · have hincoming := s.flush_keeps.incoming
    unfold answerFirst
    split
    · rcases hflush : s.flush with ⟨value | cause | _, t⟩
      all_goals
        rw [hflush] at hincoming
        exact hincoming.trans hempty
    · split
      · exact hempty
      · exact hempty
  · -- no frame is there, so there is nothing to be taken
    rw [takeFrame_eq, hempty]
    show s.starve.2.wire.incoming = []
    unfold starve Net.Wire.wait
    cases s.wire.ending
    all_goals exact hempty

theorem Parted.next (h : Parted s) : Parted s.next.2 :=
  ⟨s.next_lasts.silent h.silent, (s.next_steady h.healthy).1, s.next_empty h.empty⟩

/-- Before a frame is taken, the answer to the close frame may end the connection. -/
theorem answerFirst_parted (h : Parted s) :
    (∃ t, s.answerFirst = (.ok (), t) ∧ Keeps s t ∧ t.phase = s.phase) ∨
      ∃ t, s.answerFirst = (.error .closed, t) := by
  have hkeeps := s.flush_keeps
  have horderly := s.flush_orderly
  unfold answerFirst
  split
  · rcases hflush : s.flush with ⟨value | cause | _, t⟩
    all_goals rw [hflush] at hkeeps horderly
    · exact Or.inl ⟨t, rfl, hkeeps, horderly.phase fun _ he => nomatch he⟩
    · obtain rfl := horderly.failure h.healthy cause rfl
      exact Or.inr ⟨t, rfl⟩
    · exact Or.inl ⟨_, rfl, { hkeeps with }, horderly.phase fun _ he => nomatch he⟩
  · split
    · exact Or.inr ⟨_, rfl⟩
    · exact Or.inl ⟨s, rfl, Keeps.refl s, rfl⟩

/-- Then the socket waits for the end of the stream, and that is an orderly one. -/
theorem starve_parted (hsilent : s.phase.canRead = false) (hgoing : s.phase ≠ .terminated) (hhealthy : s.wire.Healthy) :
    (s.starve.1 = .blocked ∧ s.wire.ending = .open) ∨ s.starve.1 = .error .closed := by
  unfold starve Net.Wire.wait
  cases hending : s.wire.ending with
  | «open» => exact Or.inl ⟨rfl, rfl⟩
  | ended =>
    right
    cases hphase : s.phase with
    | closedByPeer => rfl
    | acknowledged => rfl
    | terminated => exact absurd hphase hgoing
    | active | closedByUs =>
      rw [hphase] at hsilent
      cases hsilent
  | reset => exact absurd hhealthy.ending (by simp [hending])
  | dead => exact absurd hhealthy.ending (by simp [hending])

theorem read_parted (h : Parted s) : (s.read.1 = .blocked ∧ s.wire.ending = .open) ∨ s.read.1 = .error .closed ∨
    s.read.1 = .error .alreadyClosed := by
  unfold read
  split
  · exact Or.inr (Or.inr rfl)
  next hgoing =>
  rw [readWith_eq]
  rcases answerFirst_parted h with ⟨t, hanswer, hkeeps, hphase⟩ | ⟨t, hanswer⟩
  · -- the answer is not in the way, so the socket waits for the end of the stream
    obtain ⟨hhealthy, hending⟩ := hkeeps.healthy h.healthy
    have hstarve := starve_parted (s := t) (hphase ▸ h.silent) (hphase ▸ hgoing) hhealthy
    have htake : t.takeFrame = t.starve := by
      rw [takeFrame_eq, hkeeps.incoming, h.empty]
      rfl
    rw [hanswer]
    show ((t.takeFrame.andThen _).1 = _ ∧ _) ∨ (t.takeFrame.andThen _).1 = _ ∨ _
    rw [htake]
    rcases hresult : t.starve with ⟨message? | cause | _, u⟩
    all_goals rw [hresult] at hstarve
    · rcases hstarve with ⟨hno, _⟩ | hno
      · cases hno
      · cases hno
    · rcases hstarve with ⟨hno, _⟩ | hcause
      · cases hno
      · cases hcause
        exact Or.inr (Or.inl rfl)
    · exact Or.inl ⟨rfl, (hstarve.resolve_right fun hno => nomatch hno).2 ▸ hending.symm⟩
  · rw [hanswer]
    exact Or.inr (Or.inl rfl)

/-- **Behind the close frame of the peer there is an orderly end and nothing else.** -/
theorem next_parted (h : Parted s) : (s.next.1 = .blocked ∧ s.wire.ending = .open) ∨ s.next.1 = .ok none := by
  have hread := read_parted h
  unfold Socket.next
  split
  · exact Or.inr rfl
  · rcases hresult : s.read with ⟨message | cause | _, t⟩
    all_goals rw [hresult] at hread
    · rcases hread with ⟨hno, _⟩ | hno | hno
      all_goals cases hno
    · right
      rcases hread with ⟨hno, _⟩ | hcause | hcause
      · cases hno
      · cases hcause
        rfl
      · cases hcause
        rfl
    · refine Or.inl ⟨rfl, ?_⟩
      rcases hread with ⟨_, hopen⟩ | hno | hno
      · exact hopen
      · cases hno
      · cases hno

/-! ## The end of the stream -/

/-- A close frame that a socket in a role can read. -/
structure IsFarewell (role : Role) (frame : Frame) : Prop extends Legible role frame where
  /-- It is a close frame. -/
  opcode : frame.opcode = .close
  /-- It is no fragment. -/
  final : frame.final = true
  /-- It is not longer than a control frame may be. -/
  small : frame.payload.length ≤ controlLimit
  /-- Its reason can be read. -/
  readable : ∃ reason, CloseReason.read frame.payload = .ok reason

/-- **A close frame is a message**, and no frames may come behind it. -/
theorem receive_farewell {frame : Frame} (h : IsFarewell s.role frame) (hactive : s.phase = .active) :
    ∃ reason t, s.receive frame = (.ok (some (.close reason)), t) ∧ t.wire = s.wire ∧ t.phase.canRead = false := by
  obtain ⟨reason, hreason⟩ := h.readable
  obtain ⟨message, hclose, hwire, hsilent⟩ : ∃ answer, (s.receiveClose reason).1 = some (.close answer) ∧
      (s.receiveClose reason).2.wire = s.wire ∧ (s.receiveClose reason).2.phase.canRead = false := by
    have hsilent := (s.receiveClose_onward reason).2
    unfold receiveClose at hsilent ⊢
    rw [hactive] at hsilent ⊢
    exact ⟨_, rfl, (setReply_alike _ _).1.wire, hsilent fun hno => nomatch hno⟩
  refine ⟨message, (s.receiveClose reason).2, ?_, hwire, hsilent⟩
  rw [receive_eq h.toLegible hactive, if_pos (by rw [h.opcode]; rfl)]
  unfold receiveControl
  rw [h.final, h.opcode, if_neg (by simp), if_neg (Nat.not_lt.mpr h.small), hreason]
  simp only [hclose]

/-- The bytes of the close frame at the end of a stream, if there is one. -/
def farewellBytes (farewell : Option Frame) : Bytes := farewell.toList.flatMap Frame.encode

/-- **What a read comes to that looks for a frame behind the last one.** -/
inductive Ends (future : Bytes) (contents : List Content) (farewell : Option Frame) : Result Message → Prop where
  /-- It has to wait, since the stream has not ended. -/
  | waits {t : Socket} (hinflow : Inflow t future [] contents (farewellBytes farewell)) (hopen : t.wire.ending = .open) :
      Ends future contents farewell (.blocked, t)
  /-- It gives the close frame. -/
  | closes {t : Socket} {reason : Option CloseReason} (hsome : farewell.isSome = true) (hfuture : future = [])
      (hparted : Parted t) : Ends future contents farewell (.ok (.close reason), t)
  /-- The stream has been cut off. -/
  | cut {t : Socket} (hnone : farewell.isSome = false) (hended : t.wire.ending = .ended) :
      Ends future contents farewell (.error (.protocol .resetWithoutClosing), t)

/-- **A stream ends with a close frame, or it is cut off.** -/
theorem takeFrame_ends {future : Bytes} {contents : List Content} {farewell : Option Frame}
    (h : Inflow s future [] contents (farewellBytes farewell)) (hfarewell : ∀ frame ∈ farewell, IsFarewell s.role frame)
    (again : Socket → Result Message) : Ends future contents farewell (s.takeFrame.andThen (orAgain again)) := by
  have hstream : s.wire.incoming ++ future = farewellBytes farewell := h.stream
  rw [takeFrame_eq]
  cases farewell with
  | none =>
    obtain ⟨hincoming, -⟩ := List.append_eq_nil_iff.mp hstream
    rw [hincoming]
    show Ends _ _ _ (s.starve.andThen _)
    unfold starve Net.Wire.wait
    rcases h.healthy.ending with hopen | hended
    · rw [hopen]
      exact .waits h hopen
    · rw [hended, h.active]
      exact .cut rfl hended
  | some frame =>
    have hframe := hfarewell frame rfl
    have hback : s.wire.incoming ++ future = frame.encode ++ [] := hstream
    rcases frame_front hframe.toLegible hback with ⟨more, hdecode, -, hmore⟩ | ⟨hdecode, hsize⟩
    · -- the whole close frame is there, and nothing behind it
      obtain ⟨rfl, rfl⟩ := List.append_eq_nil_iff.mp hmore
      obtain ⟨reason, t, hreceive, hwire, hsilent⟩ := receive_farewell (s := s.taken []) hframe h.active
      rw [hdecode]
      show Ends _ _ _ (Result.andThen (.ofExcept ((s.taken []).receive frame).1, ((s.taken []).receive frame).2) _)
      rw [hreceive]
      refine .closes rfl rfl ⟨hsilent, ?_, ?_⟩
      · rw [hwire]
        exact ⟨h.healthy.ending, h.healthy.shut⟩
      · rw [hwire]
        rfl
    · -- only a part of the close frame is there, so the stream goes on
      have hgoing : s.wire.ending ≠ .ended := by
        intro hended
        have hlength := congrArg List.length hback
        rw [h.final hended, List.append_nil, List.append_nil] at hlength
        omega
      have hwait := (s.starve_eq h.healthy).resolve_right fun hended => hgoing hended.1
      rw [hdecode]
      show Ends _ _ _ (s.starve.andThen _)
      rw [hwait]
      exact .waits h (h.healthy.ending.resolve_right hgoing)

end parted

end TextSocket.Socket
