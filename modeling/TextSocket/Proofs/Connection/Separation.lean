import TextSocket.Proofs.Connection.Recovery

/-!
# `Proofs.Connection.Separation` — failures for good, and failures that pass

A read that finds the connection closed, a frame that cannot be decoded, or a failure of the socket has failed for
good: no message is reported behind it, even if further frames arrive. A read that is given up, or gets a binary message
or an empty text, has failed only itself: the next message is reported by the next read whose turn it is. **The two kinds
are kept apart in every run** (`failures_separate`), whatever arrives, however the stream ends, and however reads and
writes take turns, though the end of reading and the phase of the connection are two notes in two places.

Two things are not promised. A message that has arrived before the peer resets the stream is lost if the answer to a
ping stands in its way, since the socket writes the answer first, and fails. And a read that waits behind another one may
be given up behind a failure for good as before it.

## Contents

* `Separates`, `Recovers` — what follows a failure for good, and what follows any other;
* `failures_separate` — both, in every run;
* `reset_overtakes` — the two things that are not promised.
-/

namespace TextSocket.Connection

open Socket (Content Clear)

/-- **Behind a failure for good there is no message.** `h` is a moment of a run, and `h'` a later one. -/
structure Separates (h h' : History) : Prop where
  /-- When a read has failed for good, no read gets a message that comes to its end later. When the connection is being
      closed, this goes for the reads that are made later. -/
  silent : Met h Call.Outcome.isFinal → ∀ {m outcome}, h'.connection.At m .read (.finished outcome) →
    h.connection.calls.length ≤ m ∨ h.connection.closed = false ∧ h.connection.outcome? m = none →
    outcome.isData = false
  /-- When a read has met a failure of the socket, every read that comes to its end later finds the connection closed,
      unless it is given up before its turn. -/
  spent : Met h Call.Outcome.isFailure → ∀ {m outcome}, h'.connection.At m .read (.finished outcome) →
    h.connection.outcome? m = none →
    outcome = .failed .connectionClosed ∨ isTimeout outcome = true ∧ m ∉ h'.order .reading
  /-- It does so with its next step when it has its turn. -/
  prompt : Met h Call.Outcome.isFailure → ∀ {m}, h'.connection.grants .reading m = true → ∀ now,
    (h'.connection.step now m).outcome? m = some (.failed .connectionClosed)
  /-- A read that is made when no other one waits does so with its third step at the latest. -/
  alone : Met h Call.Outcome.isFailure → h'.connection.readers = [] → ∀ t₁ t₂ t₃,
    (h'.run [.enter .read, .step t₁ h'.connection.calls.length, .step t₂ h'.connection.calls.length,
      .step t₃ h'.connection.calls.length]).connection.outcome? h'.connection.calls.length =
        some (.failed .connectionClosed)

/-- **Behind any other failure the next message is reported.** What has arrived is that of these frames and a tail; the
    frames carry the contents, and the tail may be anything. -/
structure Recovers (frames : List Frame) (contents : List Content) (tail : Bytes) (h : History) : Prop where
  /-- On a stream that the peer has not reset, reads have reported the messages in their order, and the next read whose
      turn it is reports the next one. -/
  next : h.connection.socket.wire.ending.isCut = false → ∀ {content},
    contents[(results h).length]? = some content →
    results h = (contents.take (results h).length).map report ∧
    ∀ {n}, h.connection.grants .reading n = true → ∀ now,
      (h.connection.step now n).outcome? n = some (report content)
  /-- When the peer has reset the stream and no read has failed for good, the frames that are left are still there, and
      the next read reports the next message unless an answer to a ping stands in its way. -/
  behindReset : ¬ Met h Call.Outcome.isFinal → ∀ {content}, contents[(results h).length]? = some content →
    results h = (contents.take (results h).length).map report ∧
    ∃ unread, unread <:+ frames ∧ h.connection.socket.wire.incoming = unread.flatMap Frame.encode ++ tail ∧
      (Clear h.connection.socket unread → ∀ {n}, h.connection.grants .reading n = true → ∀ now,
        (h.connection.step now n).outcome? n = some (report content))

section separation

variable {h : History}

theorem Settles.separates (hr : Settles h) (later : List Event) : Separates h (h.run later) := by
  have spent : Met h Call.Outcome.isFailure → Spent h (h.run later) := by
    rintro ⟨n, outcome, hat, hfailure⟩
    exact spent_run hr (hr.failed hat hfailure) later
  constructor
  case silent =>
    rintro ⟨n, outcome, hat, hfinal⟩ m outcome' hat' hlater
    have hc := hr.turns.coherent
    have hnew : h.connection.calls.length ≤ m → h.connection.outcome? m = none := by
      intro hm
      unfold outcome?
      rw [hc.fresh m hm]
      rfl
    rcases hr.silent hat hfinal with hmute | hclosed
    · exact (hushed_run hc hmute later).ends hat' (hlater.elim hnew And.right)
    · rcases hlater with hm | ⟨hopen, _⟩
      · rcases (shut_run hc hclosed later).begun hat' hm with hbegun | hturned
        · cases hbegun
        · cases hturned
          rfl
      · rw [hclosed] at hopen
        cases hopen
  case spent => exact fun hmet _ _ hat hsince => (spent hmet).ends hat hsince
  case prompt => exact fun hmet _ hgrants now => step_ended hgrants (spent hmet).ended now
  case alone =>
    intro hmet hfree
    exact run_ended (spent hmet).settles.turns.coherent (spent hmet).ended hfree

theorem Recovering.recovers {frames : List Frame} {contents : List Content} {tail : Bytes}
    (hr : Recovering frames contents tail h) (hstream : h.arrived = frames.flatMap Frame.encode ++ tail) :
    Recovers frames contents tail h := by
  constructor
  case next =>
    intro hwhole content hcontent
    have hhealthy : h.connection.socket.wire.Healthy :=
      hr.sound.resolve_left fun hcut => by rw [hwhole] at hcut; cases hcut
    rcases hr.next hstream hcontent with ⟨hcut, _⟩ | ⟨hresults, _, _, _, hnext⟩
    · rw [hwhole] at hcut
      cases hcut
    · exact ⟨hresults, fun hgrants now => hnext (Or.inl hhealthy) hgrants now⟩
  case behindReset =>
    intro hnone content hcontent
    rcases hr.next hstream hcontent with ⟨_, hmet⟩ | ⟨hresults, unread, hframes, hincoming, hnext⟩
    · exact absurd hmet hnone
    · exact ⟨hresults, unread, hframes, hincoming, fun hclear _ hgrants now => hnext (Or.inr hclear) hgrants now⟩

/-- **Failures for good and failures that pass are kept apart**, in every run of a connection. As long as no call
    closes, none of them sets the flag. -/
theorem failures_separate (id : ConnectionId) (config : Config) (role : Socket.Role) {wire : Net.Wire}
    (hshut : wire.shut = false) (threshold : Nat) (keys : Nat → MaskKey) (before later : List Event)
    {h h' : History}
    (hrun : h = (History.start (ofSocket id config (.ofWire role wire threshold keys))).run before)
    (hlater : h' = h.run later) :
    Separates h h' ∧ (.enter .close ∉ before → h.connection.closed = false ∧
      ∀ {frames : List Frame} {contents : List Content} {tail : Bytes},
        (∀ frame ∈ frames, Socket.Legible role frame) → Socket.Carries none frames contents →
        h.arrived = frames.flatMap Frame.encode ++ tail → Recovers frames contents tail h) := by
  subst hlater hrun
  refine ⟨(settles_run id config rfl before).separates later, fun hopen => ⟨?_, ?_⟩⟩
  · -- that nobody closes does not depend on what the peer sends
    have hstart := recovering_start id config role threshold keys hshut (fun _ hmem => by cases hmem) .done []
    exact (hstart.run hopen).unclosed.closed
  · intro frames contents tail hlegible hcarries hstream
    have hstart := recovering_start id config role threshold keys hshut hlegible hcarries tail
    exact (hstart.run hopen).recovers hstream

/-- A read is given up, and the next one gets a binary message. Then the peer has reset the stream, but the text that
    has arrived before is reported. The read behind it meets the reset, and the last one finds the end. -/
theorem failures_separate_of_reset : ∃ h h' : History,
    h = (History.start (ofSocket (.random 0) .default (.ofWire .client .fresh 0 fun _ => ⟨1, 2, 3, 4⟩))).run
        [.enter .read, .step 0 0, .step 0 0, .step 60000000000 0, .peer (.deliver [130, 1, 7, 129, 2, 104, 105]),
          .peer .reset, .enter .read, .step 60000000000 1, .step 60000000000 1, .step 60000000000 1,
          .enter .read, .step 60000000000 2, .step 60000000000 2] ∧
      h' = h.run [.step 60000000000 2, .enter .read, .step 60000000000 3, .step 60000000000 3,
          .step 60000000000 3] ∧
      Recovers [.whole .binary [7], .whole .text [104, 105]] [.binary [7], .text "hi"] [] h ∧
      results h = [.failed .binaryMessage] ∧ h'.connection.outcome? 2 = some (.text "hi") ∧
      h'.connection.outcome? 3 = some (.failed (.socket (.io .connectionReset))) ∧ h'.connection.closed = false ∧
      Separates h' (h'.run [.enter .read, .step 60000000000 4, .step 60000000000 4, .step 60000000000 4]) := by
  have hlegible : ∀ frame ∈ ([.whole .binary [7], .whole .text [104, 105]] : List Frame),
      Socket.Legible .client frame := by
    intro frame hmem
    simp only [List.mem_cons, List.not_mem_nil, or_false] at hmem
    rcases hmem with rfl | rfl
    · exact ⟨rfl, by decide, by decide⟩
    · exact ⟨rfl, by decide, by decide⟩
  have hcarries : Socket.Carries none [.whole .binary [7], .whole .text [104, 105]] [.binary [7], .text "hi"] :=
    .whole rfl rfl rfl (.whole rfl rfl (by decide) .done)
  have hshut : Net.Wire.fresh.shut = false := rfl
  obtain ⟨_, hopen⟩ := failures_separate (.random 0) .default .client hshut 0 (fun _ => ⟨1, 2, 3, 4⟩)
    [.enter .read, .step 0 0, .step 0 0, .step 60000000000 0, .peer (.deliver [130, 1, 7, 129, 2, 104, 105]),
      .peer .reset, .enter .read, .step 60000000000 1, .step 60000000000 1, .step 60000000000 1,
      .enter .read, .step 60000000000 2, .step 60000000000 2] [] rfl rfl
  obtain ⟨hseparates, _⟩ := failures_separate (.random 0) .default .client hshut 0 (fun _ => ⟨1, 2, 3, 4⟩)
    [.enter .read, .step 0 0, .step 0 0, .step 60000000000 0, .peer (.deliver [130, 1, 7, 129, 2, 104, 105]),
      .peer .reset, .enter .read, .step 60000000000 1, .step 60000000000 1, .step 60000000000 1,
      .enter .read, .step 60000000000 2, .step 60000000000 2, .step 60000000000 2,
      .enter .read, .step 60000000000 3, .step 60000000000 3, .step 60000000000 3]
    [.enter .read, .step 60000000000 4, .step 60000000000 4, .step 60000000000 4] rfl rfl
  obtain ⟨_, hrecovers⟩ := hopen (by simp)
  exact ⟨_, _, rfl, rfl, hrecovers hlegible hcarries (by decide), rfl, rfl, rfl, rfl, hseparates⟩

/-- **What is not promised.** In the first run a ping and a text arrive behind a read that has been given up. Then the peer
    resets the stream, the answer to the ping cannot be written, and the text is reported by no read. In the second run a
    frame cannot be decoded, and a read that is made later is given up while it waits behind another one. -/
theorem reset_overtakes :
    (∃ h, h = (History.start (ofSocket (.random 0) .default (.ofWire .client .fresh 0 fun _ => ⟨1, 2, 3, 4⟩))).run
        [.enter .read, .step 0 0, .step 0 0, .step 60000000000 0, .peer (.deliver [137, 0, 129, 2, 104, 105]),
          .peer .reset, .enter .read, .step 60000000000 1, .step 60000000000 1, .step 60000000000 1] ∧
      h.connection.outcome? 0 = some (.failed (.timeout .read 60000)) ∧
      h.arrived = [.whole .ping [], .whole .text (Bytes.ofText "hi")].flatMap Frame.encode ∧
      h.connection.outcome? 1 = some (.failed (.socket (.io .connectionReset))) ∧
      ∀ later n outcome, (h.run later).connection.At n .read (.finished outcome) →
        h.connection.outcome? n = none → outcome.isData = false) ∧
    ∃ h, h = (History.start (ofSocket (.random 0) .default (.ofWire .client .fresh 0 fun _ => ⟨1, 2, 3, 4⟩))).run
        [.enter .read, .step 0 0, .step 0 0, .step 0 0, .enter .read, .step 0 1, .step 0 1, .step 0 1,
          .peer (.deliver [131, 0]), .step 0 0, .enter .read, .step 0 2, .step 0 2, .step 60000000000 2] ∧
      h.connection.outcome? 0 = some (.failed (.socket (.protocol (.badOpcode 3)))) ∧
      h.connection.outcome? 2 = some (.failed (.timeout .read 60000)) := by
  refine ⟨⟨_, rfl, rfl, by decide, rfl, fun later n outcome hat hsince => ?_⟩, _, rfl, rfl, rfl⟩
  have hgoing : (Socket.ofWire .client .fresh 0 fun _ => ⟨1, 2, 3, 4⟩).ended = false := rfl
  have hsettles := settles_run (.random 0) .default hgoing
    [.enter .read, .step 0 0, .step 0 0, .step 60000000000 0, .peer (.deliver [137, 0, 129, 2, 104, 105]), .peer .reset,
      .enter .read, .step 60000000000 1, .step 60000000000 1, .step 60000000000 1]
  exact (hushed_run hsettles.turns.coherent (Or.inl rfl) later).ends hat hsince

end separation

end TextSocket.Connection
