import TextSocket.Proofs.Connection.Ending
import TextSocket.Proofs.Connection.Transcript
import TextSocket.Proofs.Socket.Orderly

/-!
# `Proofs.Connection.Leftover` — what a write that has failed leaves behind

A write that fails before its text is in the slot leaves nothing behind. But from then on the text is no longer in the
hands of the call: a write that is given up while it waits for room, or that a closed connection ends, leaves it in the
slot, or leaves a part of its frame on the stream. Whoever comes next goes on from there, so **the text goes out in
front of every text that is put into the slot later** (`leaves_run`). A caller that writes the text again sends it twice
(`failed_text_delivered`).

The order is that of the slot: the texts on the stream are those that have been put into the slot first, and none of
them is left out. Behind a failure of the socket nothing follows: the stream takes nothing any more, or the socket takes
no text.

## Contents

* `Feeding`, `Feeding.move` — the invariant;
* `Remains`, `Feeding.run` — what a run keeps, and what it leaves of a call that is over;
* `Leaves`, `leaves_run` — what becomes of the text of a write that has failed.
-/

namespace TextSocket.Connection

open Net (Attempt)
open Socket (Slot Fits)

/-! ## The invariant -/

/-- Whether a call has come so far that its text is no longer in its hands. -/
def HasFed (c : Connection) (n : Nat) : Prop :=
  ∃ call stage, c.At n call stage ∧ ((∃ deadline, stage = .flushing deadline) ∨ stage.isOver = true)

/-- A call whose text is not on the stream and does not come there any more: it is not in the slot, or the socket
    takes no text. -/
def Lost (h : History) (posts : List Post) (owner : Option Nat) (n : Nat) : Prop :=
  n ∉ authors posts ∧ (h.connection.socket.phase = .active → n ∉ owner.toList)

/-- **The texts on the stream and those that have been put into the slot.** -/
structure Feeding (base : Bytes) (role : Socket.Role) (h : History) (fed : List Nat) (posts : List Post)
    (owner : Option Nat) : Prop where
  /-- The frames have authors, and the slot has an owner. -/
  sending : Sending base role h posts owner
  /-- The authors are the first that have put their texts into the slot. -/
  front : authors posts <+: fed
  /-- While nobody closes the connection only the owner of the slot is behind them. -/
  line : h.connection.socket.phase = .active → authors posts ++ owner.toList = fed
  /-- A text is put into the slot once. -/
  nodup : fed.Nodup
  /-- Then it is no longer in the hands of its call. -/
  past : ∀ n ∈ fed, HasFed h.connection n
  /-- Behind a failure of the socket no text is put on the stream. -/
  broken : ∀ {n text cause}, h.connection.At n (.write text) (.finished (.failed (.socket cause))) →
    ¬ h.connection.socket.wire.Healthy ∨ Lost h posts owner n

section moves

variable {base : Bytes} {role : Socket.Role} {h : History} {fed : List Nat} {posts posts' : List Post}
  {owner owner' : Option Nat} {c' : Connection} {now n : Nat} {call : Call} {stage : Call.Stage}

theorem HasFed.move (hc : Coherent h.connection) (hat : h.connection.At n call stage)
    (hmove : Move h.connection now n call stage c') {m : Nat} (hfed : HasFed h.connection m) : HasFed c' m := by
  obtain ⟨stage', hs⟩ := hc.shape hat hmove
  obtain ⟨call', stage'', hat', hpast⟩ := hfed
  by_cases hne : m = n
  · subst hne
    obtain ⟨rfl, rfl⟩ := hat.unique hat'
    refine ⟨call', stage', hs.at_self, ?_⟩
    rcases hpast with ⟨deadline, rfl⟩ | hover
    · exact (hs.flushes deadline rfl).imp_left fun hsame => ⟨deadline, hsame⟩
    · exact Or.inr (hs.finished hover ▸ hover)
  · exact ⟨call', stage'', (hs.at_iff hne).mpr hat', hpast⟩

/-- **A move in which the socket fails a write** is one in which it does not take the text, or does not put it on the
    stream. -/
theorem Move.socket_failed (hmove : Move h.connection now n call stage c') (hat : h.connection.At n call stage)
    (hgoes : stage.isOver = false) {cause : Socket.Error}
    (hself : c'.At n call (.finished (.failed (.socket cause)))) : (∃ deadline, stage = .waiting deadline) ∨
      ∃ deadline slot, stage = .flushing deadline ∧ h.connection.writer = some slot ∧
        (slot.flush h.connection.socket).1 = .error cause := by
  cases hmove with
  | queuedRead _ _ _ | bereftRead _ _ _ _ | read _ _ _ _ _ | readFailed _ _ _ _ _ | readBlocked _ _ _ _ _
    | queuedWrite _ _ _ | bereftWrite _ _ _ _ | fed _ _ _ _ _ | feedFailed _ _ _ _ _ | feedBlocked _ _ _ _ _
    | astray _ => exact Or.inl ⟨_, rfl⟩
  | refused _ _ | passed _ | woken _ _ | bereftFlush _ _ _ | flushed _ _ _ _ | left _ =>
    cases (hself.unique (at_conclude hat _)).2
  | tested _ _ _ | subscribed _ | flagged _ | signalled | took _ _ _ | missed _ _ | closed _ _ _
    | closeBlocked _ _ _ => cases (hself.unique (at_setStage hat _)).2
  | queuedClose _ | queuedLeave _ => cases (hself.unique hat).2
  | idle hover =>
    rw [hgoes] at hover
    cases hover
  | @flushFailed _ deadline slot _ _ _ _ hwriter hflush =>
    cases (hself.unique (at_conclude hat _)).2
    exact Or.inr ⟨deadline, slot, rfl, hwriter, by rw [hflush]⟩
  | @flushBlocked _ deadline _ slot' socket _ _ _ =>
    have hstill := at_setStage (c := { h.connection with socket, writer := some slot' }) hat (.flushing deadline)
    obtain ⟨_, hself', rfl | rfl⟩ := hstill.await now deadline h.connection.writeTimeout
    · cases (hself.unique hself').2
    · cases (hself.unique hself').2

/-- **While a call puts everything on the stream, a text in the slot is its own**, and none of the frames is. -/
theorem Sending.own_slot (hsend : Sending base role h posts owner) (ht : Turns h) {deadline : Nat}
    (hat : h.connection.At n call (.flushing deadline)) {slot : Slot} (hwriter : h.connection.writer = some slot)
    (hslot : slot ≠ none) : n ∉ authors posts := by
  obtain ⟨front, hfront, hfresh, _⟩ := ht.last (ht.flushing hat) hat rfl
  have howned := hsend.owned slot (Or.inl hwriter)
  obtain ⟨m, rfl⟩ : ∃ m, owner = some m := by
    cases slot with
    | none => exact absurd rfl hslot
    | some text =>
      cases owner with
      | none => exact False.elim howned
      | some m => exact ⟨m, rfl⟩
  -- the owner is the last one in the order, and so is the call
  have hordered := hsend.ordered
  rw [hfront] at hordered
  have hbefore := hordered.reverse.tail
  simp only [Option.toList_some, List.reverse_append, List.reverse_singleton, List.singleton_append,
    List.tail_cons] at hbefore
  exact fun hmem => hfresh ((List.reverse_sublist.mp hbefore).subset hmem)

theorem Feeding.nodup_move (hf : Feeding base role h fed posts owner) : (fed ++ h.connection.feeder n).Nodup := by
  refine List.nodup_append.mpr ⟨hf.nodup, nodup_feeder _ n, ?_⟩
  rintro a hold b hnew rfl
  -- the call still waits
  obtain ⟨rfl, hfeeds⟩ := mem_feeder.mp hnew
  obtain ⟨_, _, hat⟩ := at_of_feeds hfeeds
  obtain ⟨_, _, hat', hpast⟩ := hf.past a hold
  obtain ⟨_, rfl⟩ := hat.unique hat'
  rcases hpast with ⟨_, hno⟩ | hno
  · cases hno
  · cases hno

/-- A text is lost that is neither in a frame nor in the slot. -/
theorem lost_of_not_mem {m : Nat} (hnone : m ∉ authors posts ++ owner.toList) : Lost h posts owner m :=
  ⟨fun hmem => hnone (List.mem_append_left _ hmem), fun _ hmem => hnone (List.mem_append_right _ hmem)⟩

/-- Only a call that puts its text into the slot comes to have it on the stream. -/
theorem Lost.move {m : Nat} (hlost : Lost h posts owner m) (hgrows : Grows h n posts owner posts' owner')
    (hactive : c'.socket.phase = .active → h.connection.socket.phase = .active) (hnew : m ∉ h.connection.feeder n) :
    Lost (h.moved n c') posts' owner' m := by
  obtain ⟨hauthors, howner⟩ := hlost
  by_cases hgoes : h.connection.socket.phase = .active
  · refine lost_of_not_mem ?_
    rw [hgrows.active hgoes]
    simp [hauthors, howner hgoes, hnew]
  · exact ⟨hgrows.silent hgoes ▸ hauthors, fun hno => absurd (hactive hno) hgoes⟩

/-- A failure of the socket, behind a move. -/
theorem Feeding.broken_move (hf : Feeding base role h fed posts owner) (ht : Turns h)
    (hat : h.connection.At n call stage) (hmove : Move h.connection now n call stage c')
    (hgrows : Grows h n posts owner posts' owner') {m : Nat} {text : String} {cause : Socket.Error}
    (hfailed : c'.At m (.write text) (.finished (.failed (.socket cause)))) :
    ¬ c'.socket.wire.Healthy ∨ Lost (h.moved n c') posts' owner' m := by
  have hadvances := hmove.advances
  -- the failure is an old one, or the call that takes the step fails now
  have hkeeps : ¬ h.connection.socket.wire.Healthy ∨ Lost h posts owner m := by
    rcases ht.coherent.over_before hat hmove hfailed with hbefore | ⟨rfl, hgoes⟩
    · exact hf.broken hbefore
    · obtain ⟨stage', hs⟩ := ht.coherent.shape hat hmove
      obtain ⟨rfl, rfl⟩ := hs.at_self.unique hfailed
      rcases hmove.socket_failed hat hgoes hfailed with ⟨_, rfl⟩ | ⟨deadline, slot, rfl, hwriter, hfails⟩
      · exact Or.inr (lost_of_not_mem (hf.sending.fresh hat))
      · by_cases hhealthy : h.connection.socket.wire.Healthy
        · obtain ⟨hno, hslot⟩ := Slot.flush_fails hhealthy hfails
          exact Or.inr ⟨hf.sending.own_slot ht hat hwriter hslot, fun hactive => absurd hactive hno⟩
        · exact Or.inl hhealthy
  exact hkeeps.imp (fun hsick => (hadvances.stuck hsick).1) fun hlost =>
    hlost.move hgrows hadvances.active (hmove.feeder_of_over hat hfailed)

theorem Feeding.move (hf : Feeding base role h fed posts owner) (ht : Turns h) (hg : Guarded h)
    (hfits : ∀ n text, h.connection.textOf n = some text → Fits text) (hat : h.connection.At n call stage)
    (hmove : Move h.connection now n call stage c') :
    ∃ posts' owner', Feeding base role (h.moved n c') (fed ++ h.connection.feeder n) posts' owner' ∧
      Grows h n posts owner posts' owner' := by
  obtain ⟨posts', owner', hsend, hgrows⟩ := hf.sending.move ht hg hfits hat hmove
  have hline : h.connection.socket.phase = .active →
      authors posts' ++ owner'.toList = fed ++ h.connection.feeder n := by
    intro hactive
    rw [hgrows.active hactive, hf.line hactive]
  refine ⟨posts', owner', ⟨hsend, ?front, fun hactive => hline (hmove.advances.active hactive), hf.nodup_move, ?past,
    fun hfailed => hf.broken_move ht hat hmove hgrows hfailed⟩, hgrows⟩
  case front =>
    -- once somebody closes the connection texts drop out, and no further ones come to be frames
    by_cases hactive : h.connection.socket.phase = .active
    · exact ⟨owner'.toList, hline hactive⟩
    · rw [hgrows.silent hactive]
      exact hf.front.trans (List.prefix_append _ _)
  case past =>
    intro m hmem
    rcases List.mem_append.mp hmem with hold | hfeeder
    · exact (hf.past m hold).move ht.coherent hat hmove
    · obtain ⟨rfl, hfeeds⟩ := mem_feeder.mp hfeeder
      obtain ⟨deadline, _, hat'⟩ := hmove.feeds hat hfeeds
      exact ⟨call, _, hat', Or.inl ⟨deadline, rfl⟩⟩

end moves

/-! ## Runs -/

/-- **Whatever else happens, a stream that is not healthy stays so**, and nothing comes to be there. -/
theorem stuck_other (h : History) {event : Event} (hevent : ∀ now n, event ≠ .step now n) :
    h.connection.socket.wire.Stuck (h.after event).connection.socket.wire := by
  rcases Event.enter_or_peer hevent with ⟨call, rfl⟩ | ⟨act, rfl⟩
  · exact .refl _
  · exact (act.affects _).stuck

/-- **A stream that is not healthy takes nothing any more**, whatever the run. -/
theorem stuck_run (h : History) (events : List Event) :
    h.connection.socket.wire.Stuck (h.run events).connection.socket.wire := by
  refine History.run_of_move (P := fun h' => h.connection.socket.wire.Stuck h'.connection.socket.wire)
    (Q := fun _ => True) (fun hstuck _ hmove => hstuck.trans hmove.advances.stuck)
    (fun hstuck _ hevent => hstuck.trans (stuck_other _ hevent)) (.refl _) (fun _ _ => trivial)

/-- No other event sends a close frame, nor gets one. -/
theorem History.phase_other (h : History) {event : Event} (hevent : ∀ now n, event ≠ .step now n) :
    (h.after event).connection.socket.phase = h.connection.socket.phase := by
  rcases Event.enter_or_peer hevent with ⟨call, rfl⟩ | ⟨act, rfl⟩
  · rfl
  · rfl

section runs

variable {base : Bytes} {role : Socket.Role} {h : History} {fed : List Nat} {posts : List Post} {owner : Option Nat}

theorem Feeding.other (hf : Feeding base role h fed posts owner) (ht : Turns h) {event : Event}
    (hevent : ∀ now n, event ≠ .step now n) : Feeding base role (h.after event) fed posts owner := by
  have hstill := ht.coherent.still hevent
  have hphase := h.phase_other hevent
  refine ⟨hf.sending.other ht hevent, hf.front, fun hactive => hf.line (hphase ▸ hactive), hf.nodup, fun n hmem => ?_,
    fun hfailed => ?_⟩
  · obtain ⟨call, stage, hat, hpast⟩ := hf.past n hmem
    refine ⟨call, stage, ?_, hpast⟩
    rcases Event.enter_or_peer hevent with ⟨call, rfl⟩ | ⟨act, rfl⟩
    · exact ht.coherent.at_enter.mpr (Or.inl hat)
    · exact (at_congr rfl).mpr hat
  · unfold Lost
    rw [hphase]
    exact (hf.broken (hstill.finished.mp hfailed)).imp_left fun hsick => (stuck_other h hevent hsick).1

/-- **A call that is over**, and what a run leaves of it. -/
structure Remains (h : History) (fed : List Nat) (posts : List Post) (owner : Option Nat) (k : History)
    (fed' : List Nat) (posts' : List Post) (owner' : Option Nat) (n : Nat) : Prop where
  /-- It is still over. -/
  ended : ∃ call outcome, k.connection.At n call (.finished outcome)
  /-- It has put no text into the slot since. -/
  fed : n ∈ fed' → n ∈ fed
  /-- If its text was lost, it still is. -/
  lost : Lost h posts owner n → Lost k posts' owner' n

/-- **What a run keeps.** -/
theorem Feeding.run (hf : Feeding base role h fed posts owner) (hsafe : SendsSafely base role h) {events : List Event}
    (hfits : ∀ text, .enter (.write text) ∈ events → Fits text) :
    SendsSafely base role (h.run events) ∧
      ∃ posts' owner', Feeding base role (h.run events) (fed ++ h.fed events) posts' owner' ∧
        ∀ n call outcome, h.connection.At n call (.finished outcome) →
          Remains h fed posts owner (h.run events) (fed ++ h.fed events) posts' owner' n := by
  refine History.run_of_feeding (P := fun k fed' => SendsSafely base role k ∧
    ∃ posts' owner', Feeding base role k fed' posts' owner' ∧
      ∀ n call outcome, h.connection.At n call (.finished outcome) → Remains h fed posts owner k fed' posts' owner' n)
    (Q := fun event => ∀ text, event = .enter (.write text) → Fits text) ?move ?other ?start ?known
  case move =>
    rintro k fed' now m call stage c' ⟨hsafe, posts₁, owner₁, hf, hremains⟩ hat hmove
    obtain ⟨posts₂, owner₂, hf', hgrows⟩ := hf.move hsafe.turns hsafe.guarded hsafe.fits hat hmove
    refine ⟨hsafe.move hat hmove, posts₂, owner₂, hf', fun n call' outcome hover => ?_⟩
    obtain ⟨⟨call', outcome, hover⟩, hfed, hlost⟩ := hremains n call' outcome hover
    have hover' := hsafe.turns.coherent.over_move hat hmove hover
    have hnew := hmove.feeder_of_over hat hover'
    exact ⟨⟨call', outcome, hover'⟩, fun hmem => hfed ((List.mem_append.mp hmem).resolve_right hnew),
      fun h' => (hlost h').move hgrows hmove.advances.active hnew⟩
  case other =>
    rintro k fed' event ⟨hsafe, posts', owner', hf, hremains⟩ hfit hevent
    refine ⟨hsafe.other hevent hfit, posts', owner', hf.other hsafe.turns hevent, fun n call outcome hover => ?_⟩
    obtain ⟨⟨call', outcome', hover'⟩, hfed, hlost⟩ := hremains n call outcome hover
    refine ⟨⟨call', outcome', (hsafe.turns.coherent.still hevent).finished.mpr hover'⟩, hfed, fun h' => ?_⟩
    unfold Lost
    rw [k.phase_other hevent]
    exact hlost h'
  case start =>
    refine ⟨hsafe, posts, owner, hf, fun n call outcome hover => ?_⟩
    exact ⟨⟨call, outcome, hover⟩, fun hmem => hmem, fun hlost => hlost⟩
  case known =>
    rintro event hmem text rfl
    exact hfits text hmem

/-- At the start no text has been put into the slot. -/
theorem feeding_start (id : ConnectionId) (config : Config) (role : Socket.Role) (wire : Net.Wire) (threshold : Nat)
    (keys : Nat → MaskKey) : ∃ posts owner, Feeding wire.outgoing role
      (.start (ofSocket id config (Socket.ofWire role wire threshold keys))) [] posts owner := by
  obtain ⟨_, _, _, posts, owner, hsend⟩ := sends_start id config role wire threshold keys
  have hnone : authors posts ++ owner.toList = [] := List.sublist_nil.mp hsend.ordered
  have hempty : authors posts = [] := (List.append_eq_nil_iff.mp hnone).1
  refine ⟨posts, owner, hsend, hempty ▸ List.prefix_rfl, fun _ => hnone, List.nodup_nil, fun n hmem => ?_,
    fun hfailed => ?_⟩
  · cases hmem
  · cases hfailed

end runs

/-! ## What a write leaves behind -/

/-- **What becomes of the text of a write that has failed**, if the calls `fed` had put their texts into the slot when it
    failed, the calls `later` have done so from then on, and `posts` are the frames on the stream. -/
structure Leaves (base : Bytes) (h k : History) (fed later : List Nat) (n : Nat) (cause : Error) (posts : List Post) :
    Prop where
  /-- The texts on the stream are those that have been put into the slot first. -/
  inTurn : authors posts <+: fed ++ later
  /-- A text that had not been put into the slot does not come to be on the stream. -/
  withheld : n ∉ fed → n ∉ authors posts
  /-- Behind a failure of the socket nothing comes to be there any more, or not this text. -/
  broken : ∀ failure, cause = .socket failure → n ∈ authors posts →
    k.connection.socket.wire.outgoing = h.connection.socket.wire.outgoing
  /-- A text that had been put into the slot goes out in front of every later one. -/
  carried : n ∈ fed → ∀ m ∈ later, Delivered base posts k.connection.socket.wire.outgoing m →
    Delivered base posts k.connection.socket.wire.outgoing n
  /-- It is there as soon as nothing is left that has still to be written, while nobody closes the connection. -/
  emptied : n ∈ fed → k.connection.socket.phase = .active → k.connection.writer = some none →
    k.connection.socket.outbox = [] → Delivered base posts k.connection.socket.wire.outgoing n

theorem Feeding.leaves {k : History} {later : List Nat} {posts' : List Post} {owner' : Option Nat} {n : Nat}
    {text : String} {cause : Error} (hf : Feeding base role h fed posts owner)
    (hf' : Feeding base role k (fed ++ later) posts' owner')
    (hremains : Remains h fed posts owner k (fed ++ later) posts' owner' n)
    (hstuck : h.connection.socket.wire.Stuck k.connection.socket.wire)
    (hfailed : h.connection.At n (.write text) (.finished (.failed cause))) :
    Leaves base h k fed later n cause posts' where
  inTurn := hf'.front
  withheld hnot hmem := hnot (hremains.fed (hf'.front.subset hmem))
  broken failure hcause hmem := by
    subst hcause
    rcases hf.broken hfailed with hsick | hlost
    · -- the stream had failed with the call
      exact (hstuck hsick).2
    · exact absurd hmem (hremains.lost hlost).1
  carried hmem m hlater hdelivered := by
    obtain ⟨front, post, back, rfl, hauthor, hbytes⟩ := hdelivered
    have hline : authors (front ++ [post]) <+: fed ++ later := by
      refine List.IsPrefix.trans ?_ hf'.front
      rw [List.append_cons front post back, authors_append _ back]
      exact List.prefix_append _ _
    have hm : m ∈ authors (front ++ [post]) := List.mem_filterMap.mpr ⟨post, by simp, hauthor⟩
    have hfresh : m ∉ fed := fun hold => (List.nodup_append.mp hf'.nodup).2.2 m hold m hlater rfl
    -- a frame that carries a later text has all of the earlier ones in front of it
    have hfront : fed <+: authors (front ++ [post]) :=
      (List.prefix_or_prefix_of_prefix hline (List.prefix_append fed later)).resolve_left fun hshort =>
        hfresh (hshort.subset hm)
    rw [List.append_cons front post back]
    exact delivered_of_prefix back hbytes (hfront.subset hmem)
  emptied hmem hactive hwriter hempty := by
    have hnobody := (hf'.sending.owned _ (Or.inl hwriter)).toList_eq_nil rfl
    have hline := hf'.line hactive
    rw [hnobody, List.append_nil] at hline
    exact hf'.sending.ledger.delivered hempty (hline ▸ List.mem_append_left _ hmem)

/-- **The text of a write that has failed goes out all the same**, if it had been put into the slot: with whatever is
    written next, and in front of it. -/
theorem leaves_run (id : ConnectionId) (config : Config) (role : Socket.Role) (wire : Net.Wire) (threshold : Nat)
    (keys : Nat → MaskKey) (before later : List Event)
    (hfits : ∀ text, .enter (.write text) ∈ before ++ later → Fits text) {start h : History}
    (hstart : start = .start (ofSocket id config (Socket.ofWire role wire threshold keys)))
    (hrun : h = start.run before) {n : Nat} {text : String} {cause : Error}
    (hfailed : h.connection.At n (.write text) (.finished (.failed cause))) :
    ∃ posts, Transcript wire.outgoing role (h.run later) posts ∧
      Leaves wire.outgoing h (h.run later) (start.fed before) (h.fed later) n cause posts := by
  obtain ⟨posts₀, owner₀, hbegun⟩ := feeding_start id config role wire threshold keys
  have hbegins := sends_start id config role wire threshold keys
  rw [← hstart] at hbegun hbegins
  -- the run up to the failure, and the one behind it
  obtain ⟨hsafe, posts₁, owner₁, hf, _⟩ :=
    hbegun.run hbegins fun text hmem => hfits text (List.mem_append_left _ hmem)
  rw [← hrun] at hsafe hf
  rw [List.nil_append] at hf
  obtain ⟨hsafe', posts, owner, hf', hremains⟩ :=
    hf.run hsafe fun text hmem => hfits text (List.mem_append_right _ hmem)
  exact ⟨posts, hf'.sending.transcript hsafe'.turns,
    hf.leaves hf' (hremains n _ _ hfailed) (stuck_run h later) hfailed⟩

/-- A write is given up with three bytes of its frame on the stream, and its text is written again. -/
theorem leaves_run_of_retry : ∃ h k posts,
    h = (History.start (ofSocket (.random 0) .default
        (Socket.ofWire .server { Net.Wire.fresh with room := some 3 } 0 fun _ => ⟨0, 0, 0, 0⟩))).run
        [.enter (.write "hello"), .step 0 0, .step 0 0, .step 0 0, .step 60000000000 0] ∧
      k = h.run [.peer (.widen 20), .enter (.write "hello"), .step 0 1, .step 0 1, .step 0 1] ∧
      Transcript [] .server k posts ∧ Leaves [] h k [0] [1] 0 (.timeout .write 60000) posts ∧
      Delivered [] posts k.connection.socket.wire.outgoing 0 ∧
      Delivered [] posts k.connection.socket.wire.outgoing 1 := by
  have hfits : ∀ text, .enter (.write text) ∈ ([.enter (.write "hello"), .step 0 0, .step 0 0, .step 0 0,
      .step 60000000000 0] ++
      [.peer (.widen 20), .enter (.write "hello"), .step 0 1, .step 0 1, .step 0 1] : List Event) → Fits text := by
    intro text hmem
    obtain rfl : text = "hello" := by simpa using hmem
    unfold Fits
    decide
  have hfailed : ((History.start (ofSocket (.random 0) .default
      (Socket.ofWire .server { Net.Wire.fresh with room := some 3 } 0 fun _ => ⟨0, 0, 0, 0⟩))).run
      [.enter (.write "hello"), .step 0 0, .step 0 0, .step 0 0, .step 60000000000 0]).connection.At 0 (.write "hello")
      (.finished (.failed (.timeout .write 60000))) := rfl
  obtain ⟨posts, htranscript, hleaves⟩ := leaves_run (.random 0) .default .server
    { Net.Wire.fresh with room := some 3 } 0 (fun _ => ⟨0, 0, 0, 0⟩) _ _ hfits rfl rfl hfailed
  exact ⟨_, _, posts, rfl, rfl, htranscript, hleaves, hleaves.emptied List.mem_cons_self rfl rfl rfl,
    htranscript.delivered 1 "hello" rfl (by decide)⟩

/-- A write is given up with three bytes of its frame on the stream. The rest of the frame goes out with the same text,
    written again, with a pong that a read sends, and with the close frame. -/
theorem failed_text_delivered : ∃ h,
    h = (History.start (ofSocket (.random 0) .default
        (Socket.ofWire .server { Net.Wire.fresh with room := some 3 } 0 fun _ => ⟨0, 0, 0, 0⟩))).run
        [.enter (.write "hello"), .step 0 0, .step 0 0, .step 0 0, .step 60000000000 0] ∧
      h.connection.At 0 (.write "hello") (.finished (.failed (.timeout .write 60000))) ∧
      h.connection.socket.wire.outgoing = (Frame.whole .text (Bytes.ofText "hello")).encode.take 3 ∧
      (h.run [.peer (.widen 20), .enter (.write "hello"), .step 0 1, .step 0 1,
          .step 0 1]).connection.socket.wire.outgoing =
        (Frame.whole .text (Bytes.ofText "hello")).encode ++ (Frame.whole .text (Bytes.ofText "hello")).encode ∧
      (h.run [.peer (.widen 20), .peer (.deliver [137, 128, 0, 0, 0, 0]), .enter .read, .step 0 1, .step 0 1,
          .step 0 1]).connection.socket.wire.outgoing =
        (Frame.whole .text (Bytes.ofText "hello")).encode ++ (Frame.whole .pong []).encode ∧
      (h.run [.peer (.widen 20), .enter .close, .step 0 1, .step 0 1, .step 0 1, .step 0 1, .step 0 1,
          .step 0 1]).connection.socket.wire.outgoing =
        (Frame.whole .text (Bytes.ofText "hello")).encode ++ (Frame.whole .close []).encode :=
  ⟨_, rfl, rfl, rfl, rfl, rfl, rfl⟩

end TextSocket.Connection
