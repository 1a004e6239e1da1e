import TextSocket.Proofs.Socket.Reading

/-!
# `Proofs.Socket.Broken` — reading from a stream that the peer may have reset

What has arrived before a reset is still there to be read. But a socket answers pings, and it writes the answer before
it takes the next frame; on a stream that is reset this fails, and reading is over, whatever has arrived behind the
ping. So **a message is lost to a reset exactly if an answer stands in its way** (`Clear`): one that waits or is still in
the outbox, or one to a ping among the frames before the message.

The invariant is that of reading without the health of the stream (`Unread`). A read does what it does on a healthy
stream, or it fails (`Takes`), and then something has stood in its way.

## Contents

* `Settled`, `Clear`, `answerFirst_cases`, `receive_settled` — what stands in the way of a read;
* `Takes`, `read_takes` — one message.
-/

namespace TextSocket.Socket

open Net (Attempt Wire)

/-! ## What stands in the way -/

/-- **Nothing is owed to the peer**: no answer waits, and none is in the outbox still. -/
structure Settled (s : Socket) : Prop where
  /-- No answer waits. -/
  reply : s.reply = none
  /-- None is in the outbox. -/
  flushed : s.unflushed = true → s.outbox = []

/-- **Nothing has to be written before frames are read**: nothing is owed, and none of the frames is a ping. -/
structure Clear (s : Socket) (frames : List Frame) : Prop where
  /-- Nothing is owed. -/
  settled : Settled s
  /-- Nothing will be asked. -/
  unasked : ∀ frame ∈ frames, frame.opcode ≠ .ping

section broken

variable {s t : Socket} {future tail : Bytes} {frame : Frame} {frames : List Frame} {contents : List Content}

theorem Clear.congr (h : Clear s frames) (hsettled : Settled t) {rest : List Frame} (hrest : rest <:+ frames) :
    Clear t rest :=
  ⟨hsettled, fun frame hmem => h.unasked frame (hrest.subset hmem)⟩

/-- On an open connection, writing the waiting answer comes to nothing if there is none. -/
theorem writeReply_settled (hactive : s.phase = .active) (h : Settled s) : s.writeReply = (.ok s.unflushed, s) := by
  rw [writeReply_eq, h.reply]
  show s.conclude s.unflushed = _
  unfold conclude
  rw [if_neg (by simp [hactive, Phase.canRead])]

/-- Who owes nothing writes nothing before a frame is taken. -/
theorem answerFirst_settled (hactive : s.phase = .active) (h : Settled s) :
    ∃ t, s.answerFirst = (.ok (), t) ∧ Keeps s t ∧ Settled t := by
  have hnone : s.reply.isSome = false := by rw [h.reply]; rfl
  unfold answerFirst
  rw [hnone, Bool.false_or]
  split
  · next hunflushed =>
    -- the outbox is empty, so flushing only notes that it has been done
    have hdrain : s.drain = (.ok (), s) := by
      unfold drain
      rw [h.flushed hunflushed]
      rfl
    have hflush : s.flush = (.ok (), { s with unflushed := false }) := by
      rw [flush_eq, writeReply_settled hactive h]
      show Result.andThen s.drain _ = _
      rw [hdrain]
      rfl
    rw [hflush]
    exact ⟨_, rfl, { Keeps.refl s with }, h.reply, fun hno => by cases hno⟩
  · rw [if_neg (by simp [hactive, Phase.canRead])]
    exact ⟨s, rfl, Keeps.refl s, h⟩

/-- **What writing the answer first comes to.** It fails only on a broken stream, and only if something is owed. -/
theorem answerFirst_cases (hactive : s.phase = .active) :
    (∃ t, s.answerFirst = (.ok (), t) ∧ Keeps s t ∧ (Settled s → Settled t)) ∨
      ∃ cause t, s.answerFirst = (.error cause, t) ∧ ¬ s.wire.Healthy ∧ ¬ Settled s := by
  by_cases hsettled : Settled s
  · obtain ⟨t, hanswer, hkeeps, hsettled'⟩ := answerFirst_settled hactive hsettled
    exact Or.inl ⟨t, hanswer, hkeeps, fun _ => hsettled'⟩
  · have hkeeps := s.flush_keeps
    unfold answerFirst
    split
    · rcases hflush : s.flush with ⟨value | cause | _, t⟩
      all_goals rw [hflush] at hkeeps
      · exact Or.inl ⟨t, rfl, hkeeps, fun h => absurd h hsettled⟩
      · refine Or.inr ⟨cause, t, rfl, fun hhealthy => ?_, hsettled⟩
        exact s.flush_fares.steady hhealthy hactive cause (by rw [hflush])
      · exact Or.inl ⟨{ t with unflushed := true }, rfl, { hkeeps with }, fun h => absurd h hsettled⟩
    · rw [if_neg (by simp [hactive, Phase.canRead])]
      exact Or.inl ⟨s, rfl, Keeps.refl s, id⟩

/-- The frames that carry messages of data, pings and pongs are no close frames. -/
theorem Expects.ne_close {assembly : Option Assembly} (h : Expects assembly (frame :: frames) contents) :
    frame.opcode ≠ .close := by
  obtain ⟨under, _, hcarries⟩ := h
  cases hcarries with
  | beat hopcode _ _ _ =>
    rcases hopcode with hopcode | hopcode
    all_goals
      rw [hopcode]
      exact fun h => by cases h
  | @whole content _ _ _ hopcode _ _ _ | @first content _ _ _ hopcode _ _ _ _ =>
    rw [hopcode]
    cases content with
    | text words => exact fun h => by cases h
    | binary bytes => exact fun h => by cases h
  | more hopcode _ _ _ | last hopcode _ _ _ =>
    rw [hopcode]
    exact fun h => by cases h

/-- A frame of data changes at most what a socket has of a message. -/
theorem receiveData_spare (s : Socket) (frame : Frame) :
    ∃ assembly, (s.receiveData frame).2 = { s with assembly } := by
  have extended : ∀ assembly', ∃ assembly, (s.extend assembly' frame).2 = { s with assembly } := by
    intro assembly'
    unfold extend
    split
    · exact ⟨_, rfl⟩
    · split
      · exact ⟨_, rfl⟩
      · exact ⟨_, rfl⟩
  unfold receiveData
  split
  · exact ⟨_, rfl⟩
  · exact extended _
  · exact ⟨_, rfl⟩
  · split
    · exact ⟨_, rfl⟩
    · exact extended _

/-- **Only pings and close frames are answered.** -/
theorem receive_settled (hlegible : Legible s.role frame) (hactive : s.phase = .active) (hping : frame.opcode ≠ .ping)
    (hclose : frame.opcode ≠ .close) (h : Settled s) : Settled (s.receive frame).2 := by
  rw [receive_eq hlegible hactive]
  split
  · next hcontrol =>
    -- the only control frames that are left are pongs
    have hpong : frame.opcode = .pong := by
      cases hopcode : frame.opcode with
      | ping => exact absurd hopcode hping
      | close => exact absurd hopcode hclose
      | pong => rfl
      | continuation | text | binary =>
        rw [hopcode] at hcontrol
        cases hcontrol
    unfold receiveControl
    rw [hpong]
    split
    · exact h
    · split
      · exact h
      · exact h
  · obtain ⟨assembly, hreceive⟩ := s.receiveData_spare frame
    rw [hreceive]
    exact ⟨h.reply, h.flushed⟩

/-! ## One message -/

/-- **What a read comes to** that begins with a socket, whatever has become of its stream. -/
inductive Takes (s : Socket) (future : Bytes) (frames : List Frame) (contents : List Content) (tail : Bytes) :
    Result Message → Prop where
  /-- It has to wait. -/
  | waits {t : Socket} {unread : List Frame} (hunread : Unread t future unread contents tail)
      (hframes : unread <:+ frames) (hstarved : Starved t) : Takes s future frames contents tail (.blocked, t)
  /-- It gives a ping or a pong. -/
  | beat {t : Socket} {message : Message} {unread : List Frame} (hunread : Unread t future unread contents tail)
      (hframes : unread <:+ frames) (hbeat : IsBeat message)
      (hsize : t.wire.incoming.length < s.wire.incoming.length) (hhealthy : s.wire.Healthy → t.wire.Healthy)
      (hclear : Clear s frames → Clear t unread) : Takes s future frames contents tail (.ok message, t)
  /-- It gives the next content. -/
  | content {t : Socket} {content : Content} {unread : List Frame} {rest : List Content}
      (hcontents : contents = content :: rest) (hunread : Unread t future unread rest tail)
      (hframes : unread <:+ frames) : Takes s future frames contents tail (.ok content.message, t)
  /-- It meets what is behind the frames. -/
  | beyond {t : Socket} {result : Attempt Error Message} (hcontents : contents = []) :
      Takes s future frames contents tail (result, t)
  /-- It fails on a broken stream. If nothing stands in its way, no message has arrived. -/
  | fails {t : Socket} {cause : Error} (hbroken : ¬ s.wire.Healthy)
      (hlost : Clear s frames → future = [] → contents = []) : Takes s future frames contents tail (.error cause, t)

/-- **Who looks for a frame that is not there waits for it**, unless the peer has reset the stream. -/
theorem starve_takes (h : Unread s future (frame :: frames) contents tail) (hstarved : Starved s)
    (again : Socket → Result Message) :
    Takes s future (frame :: frames) contents tail (s.starve.andThen (orAgain again)) := by
  -- when nothing more comes, the frame is there
  have hfuture : future ≠ [] := by
    rintro rfl
    exact h.not_starved hstarved
  unfold starve Net.Wire.wait
  cases hending : s.wire.ending with
  | «open» => exact .waits h (List.suffix_refl _) hstarved
  | ended => exact absurd (h.final hending) hfuture
  | reset | dead =>
    refine .fails (fun hhealthy => ?_) fun _ hnone => absurd hnone hfuture
    rcases hhealthy.ending with hopen | hended
    · rw [hending] at hopen
      cases hopen
    · rw [hending] at hended
      cases hended

/-- **What taking a frame comes to**: nothing yet, or what a read may come to, however it goes on otherwise. -/
theorem takeFrame_takes (h : Unread s future frames contents tail) (again : Socket → Result Message) :
    (∃ t unread, s.takeFrame = (.ok none, t) ∧ Unread t future unread contents tail ∧ unread <:+ frames ∧
      t.wire.incoming.length < s.wire.incoming.length ∧ (s.wire.Healthy → t.wire.Healthy) ∧
      (Clear s frames → Clear t unread)) ∨
    Takes s future frames contents tail (s.takeFrame.andThen (orAgain again)) := by
  cases frames with
  | nil => exact Or.inr (.beyond h.contents_nil)
  | cons frame frames =>
    have hsuffix : frames <:+ frame :: frames := List.suffix_cons _ _
    have hlegible := h.legible frame List.mem_cons_self
    have hnotClose := h.expects.ne_close
    rw [takeFrame_eq]
    rcases h.front with ⟨more, hdecode, hsize, hmore⟩ | ⟨hdecode, hsize⟩
    · rw [hdecode]
      simp only
      obtain ⟨message?, t, hreceive, halike, hnext⟩ :=
        receive_expected (s := s.taken more) hlegible h.active h.expects
      have hsettled : Clear s (frame :: frames) → Settled t := by
        intro hclear
        have hsettled' : Settled (s.taken more) := ⟨hclear.settled.reply, hclear.settled.flushed⟩
        have hreceived := receive_settled (s := s.taken more) hlegible h.active
          (hclear.unasked frame List.mem_cons_self) hnotClose hsettled'
        rw [hreceive] at hreceived
        exact hreceived
      rw [hreceive]
      have hless : t.wire.incoming.length < s.wire.incoming.length := by
        rw [halike.wire]
        exact hsize
      have hhealthy : s.wire.Healthy → t.wire.Healthy := by
        rw [halike.wire]
        exact fun hs => ⟨hs.ending, hs.shut⟩
      rcases hnext with ⟨hbeat, hexpects⟩ | ⟨content, rest, hcontents, rfl, hexpects⟩
      · have hunread := h.take hmore halike hexpects
        have hclear : Clear s (frame :: frames) → Clear t frames :=
          fun hclear => hclear.congr (hsettled hclear) hsuffix
        cases message? with
        | none => exact Or.inl ⟨t, frames, rfl, hunread, hsuffix, hless, hhealthy, hclear⟩
        | some message => exact Or.inr (.beat hunread hsuffix (hbeat message rfl) hless hhealthy hclear)
      · exact Or.inr (.content hcontents (h.take hmore halike hexpects) hsuffix)
    · rw [hdecode]
      exact Or.inr (starve_takes h hdecode again)

/-- A read that has begun before comes to the same. -/
theorem Takes.since {result : Result Message} {unread : List Frame} (h : Takes t future unread contents tail result)
    (hframes : unread <:+ frames) (hsize : t.wire.incoming.length ≤ s.wire.incoming.length)
    (hhealthy : s.wire.Healthy → t.wire.Healthy) (hclear : Clear s frames → Clear t unread) :
    Takes s future frames contents tail result := by
  cases h with
  | waits hunread hframes' hstarved => exact .waits hunread (hframes'.trans hframes) hstarved
  | beat hunread hframes' hbeat hless hhealthy' hclear' =>
    exact .beat hunread (hframes'.trans hframes) hbeat (Nat.lt_of_lt_of_le hless hsize) (hhealthy' ∘ hhealthy)
      (hclear' ∘ hclear)
  | content hcontents hunread hframes' => exact .content hcontents hunread (hframes'.trans hframes)
  | beyond hcontents => exact .beyond hcontents
  | fails hbroken hlost => exact .fails (hbroken ∘ hhealthy) (hlost ∘ hclear)

/-- **A read does what it does on a healthy stream, or something stands in its way.** The induction is on the frames
    that it may take. -/
theorem readWith_takes (fuel : Nat) (h : Unread s future frames contents tail)
    (hfuel : s.wire.incoming.length < fuel) : Takes s future frames contents tail (s.readWith fuel) := by
  induction fuel generalizing s frames with
  | zero => omega
  | succ fuel ih =>
    rw [readWith_eq]
    rcases answerFirst_cases h.active with ⟨t, hanswer, hkeeps, hsettled⟩ | ⟨cause, t, hanswer, hbroken, howing⟩
    · have hsame := hkeeps.incoming
      have hhealthy : s.wire.Healthy → t.wire.Healthy := fun hs => (hkeeps.healthy hs).1
      have hclear : Clear s frames → Clear t frames :=
        fun hclear => hclear.congr (hsettled hclear.settled) (List.suffix_refl _)
      rw [hanswer]
      show Takes s _ _ _ _ (t.takeFrame.andThen (orAgain fun u => u.readWith fuel))
      rcases takeFrame_takes (h.keeps hkeeps) fun u => u.readWith fuel with
        ⟨u, unread, htake, hunread, hframes, hless, hhealthy', hclear'⟩ | htakes
      · rw [htake]
        rw [hsame] at hless
        have htakes := ih hunread (by omega)
        exact htakes.since hframes (Nat.le_of_lt hless) (hhealthy' ∘ hhealthy) (hclear' ∘ hclear)
      · exact htakes.since (List.suffix_refl _) (Nat.le_of_eq (by rw [hsame])) hhealthy hclear
    · rw [hanswer]
      exact .fails hbroken fun hclear => absurd hclear.settled howing

theorem read_takes (h : Unread s future frames contents tail) : Takes s future frames contents tail s.read := by
  unfold read
  rw [if_neg (by rw [h.active]; simp)]
  exact readWith_takes _ h (Nat.lt_succ_self _)

end broken

end TextSocket.Socket
