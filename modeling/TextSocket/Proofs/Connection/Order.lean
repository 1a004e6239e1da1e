import TextSocket.Proofs.Connection.Moves

/-!
# `Proofs.Connection.Order` — whose turn it is

The calls on a connection take turns in two queues. The invariant says which calls stand in which queue
(`Coherent`): a read or a write from its first look at the queue until it is over, and the call that closes while it
wants a half for itself. A call that is putting everything on the stream stands first.

From this the notes of a history have their meaning. **A half is obtained by one call after another** (`Turns`): each
call obtains it at most once, and when a call has it, all that have had it before are over.

## Contents

* `mem_join`, `mem_leave`, `head?_join`, `head?_leave` — queues;
* `Suits`, `wants` — the stages of a call, and the queue that belongs to each;
* `Coherent`, `Shape` — the invariant, and what a move does to stages and queues;
* `await_eq_or`, `At.await`, `Shape.await` — waiting: a call stays where it is, or is given up;
* `Coherent.shape` — every move has a shape;
* `Turns` — the order in which a half is obtained.
-/

namespace TextSocket

/-- Whether a call is on its way to close the connection. -/
def Call.Stage.closes : Call.Stage → Bool
  | .flagged | .signalled | .closing _ _ | .leaving => true
  | _ => false

theorem Call.Stage.listens_of_closes {stage : Call.Stage} (h : stage.closes = true) : stage.listens = false := by
  cases stage <;> first | rfl | cases h

theorem Call.Stage.isOver_of_closes {stage : Call.Stage} (h : stage.closes = true) : stage.isOver = false := by
  cases stage <;> first | rfl | cases h

theorem Call.Stage.isOver_of_listens {stage : Call.Stage} (h : stage.listens = true) : stage.isOver = false := by
  cases stage <;> first | rfl | cases h

namespace Connection

/-! ## Queues -/

namespace Queue

variable {q : Queue} {n m : Nat}

theorem mem_join : m ∈ q.join n ↔ m ∈ q ∨ m = n := by
  unfold join
  split
  · next h =>
    have hn : n ∈ q := List.contains_iff_mem.mp h
    constructor
    · exact Or.inl
    · rintro (hm | rfl)
      · exact hm
      · exact hn
  · rw [List.mem_append, List.mem_singleton]

theorem mem_leave : m ∈ q.leave n ↔ m ∈ q ∧ m ≠ n := by
  unfold leave
  rw [List.mem_filter, bne_iff_ne]

theorem nodup_join (h : q.Nodup) : (q.join n).Nodup := by
  unfold join
  split
  · exact h
  · next hn =>
    have hn : n ∉ q := fun hmem => hn (List.contains_iff_mem.mpr hmem)
    exact List.nodup_append.mpr ⟨h, by simp, fun a ha b hb => by
      rw [List.mem_singleton.mp hb]
      exact fun he => hn (he ▸ ha)⟩

theorem nodup_leave (h : q.Nodup) : (q.leave n).Nodup := h.filter _

theorem join_of_mem (h : n ∈ q) : q.join n = q := by
  unfold join
  rw [if_pos (List.contains_iff_mem.mpr h)]

theorem leave_of_not_mem (h : n ∉ q) : q.leave n = q := by
  unfold leave
  refine List.filter_eq_self.mpr fun m hm => bne_iff_ne.mpr ?_
  rintro rfl
  exact h hm

/-- Who leaves again has not joined. -/
theorem leave_join : (q.join n).leave n = q.leave n := by
  unfold join
  split
  · rfl
  · simp [leave]

theorem leave_leave : (q.leave n).leave n = q.leave n :=
  leave_of_not_mem fun hmem => (mem_leave.mp hmem).2 rfl

/-- Nobody overtakes by joining. -/
theorem head?_join (h : q.head? = some m) : (q.join n).head? = some m := by
  unfold join
  split
  · exact h
  · rw [List.head?_append, h]
    rfl

/-- The first one stays first when another one leaves. -/
theorem head?_leave (h : q.head? = some m) (hne : m ≠ n) : (q.leave n).head? = some m := by
  obtain ⟨rest, rfl⟩ := List.head?_eq_some_iff.mp h
  unfold leave
  rw [List.filter_cons, if_pos (bne_iff_ne.mpr hne)]
  rfl

theorem serves_iff : q.serves n = true ↔ q.head? = some n := by
  unfold serves
  exact beq_iff_eq

/-- Who is first behind joining has nobody in front. -/
theorem eq_of_serves_join (h : (q.join n).serves n = true) (hm : q.head? = some m) : m = n := by
  have first := head?_join (n := n) hm
  rw [serves_iff.mp h] at first
  injection first with first
  exact first.symm

/-- A queue behind a move of one call, if the call has wanted the half before and if it wants it from then on. A call
    that comes to want a half joins with its next move. -/
def turn (q : Queue) (n : Nat) (before after : Bool) : Queue :=
  if after then if before then q.join n else q else q.leave n

/-- The others stand where they stood. -/
theorem mem_turn {before after : Bool} (hne : m ≠ n) : m ∈ q.turn n before after ↔ m ∈ q := by
  unfold turn
  split
  · split
    · rw [mem_join]
      exact ⟨fun hm => hm.resolve_right hne, Or.inl⟩
    · exact Iff.rfl
  · rw [mem_leave]
    exact ⟨And.left, fun hm => ⟨hm, hne⟩⟩

theorem leave_turn {before after : Bool} : (q.turn n before after).leave n = q.leave n := by
  unfold turn
  split
  · split
    · exact leave_join
    · rfl
  · exact leave_leave

theorem nodup_turn {before after : Bool} (h : q.Nodup) : (q.turn n before after).Nodup := by
  unfold turn
  split
  · split
    · exact nodup_join h
    · exact h
  · exact nodup_leave h

theorem head?_turn {before after : Bool} (h : q.head? = some m) (hne : m ≠ n) :
    (q.turn n before after).head? = some m := by
  unfold turn
  split
  · split
    · exact head?_join h
    · exact h
  · exact head?_leave h hne

end Queue

/-! ## Stages and queues -/

/-- Whether a call can come to a stage. -/
def Suits : Call → Call.Stage → Prop
  | _, .begun | _, .finished _ => True
  | .read, .tested _ | .read, .waiting _ => True
  | .write _, .tested _ | .write _, .waiting _ | .write _, .flushing _ => True
  | .close, .flagged | .close, .signalled | .close, .closing _ _ | .close, .leaving => True
  | _, _ => False

/-- Only a call that closes comes to the stages of closing. -/
theorem Suits.eq_close {call : Call} {stage : Call.Stage} (h : Suits call stage) (hcloses : stage.closes = true) :
    call = .close := by
  cases call with
  | close => rfl
  | read => cases stage <;> first | exact False.elim h | cases hcloses
  | write text => cases stage <;> first | exact False.elim h | cases hcloses

/-- A call that closes puts no text on the stream. -/
theorem Suits.ne_close {call : Call} {deadline : Nat} (h : Suits call (.flushing deadline)) : call ≠ .close := by
  rintro rfl
  exact h

/-- What it takes to obtain a half. -/
theorem grants_iff {c : Connection} {n : Nat} {call : Call} {stage : Call.Stage} (hat : c.At n call stage)
    {half : Half} :
    c.grants half n = true ↔ (∃ deadline, stage = .waiting deadline) ∧ call.half? = some half ∧
      c.signal = false ∧ ((c.queue half).join n).serves n = true := by
  unfold grants
  rw [show c.call? n = _ from hat]
  cases stage with
  | waiting deadline => simp [and_assoc]
  | _ => simp

/-- Whether a call at a stage may stand in the queue for a half. -/
def wants : Half → Call → Call.Stage → Bool
  | .reading, .read, .waiting _ | .reading, .close, .leaving => true
  | .writing, .write _, .waiting _ | .writing, .write _, .flushing _ | .writing, .close, .signalled => true
  | _, _, _ => false

theorem wants_over (half : Half) (call : Call) (outcome : Call.Outcome) :
    wants half call (.finished outcome) = false := by
  cases half <;> cases call <;> rfl

/-- A read or a write that listens wants its half. -/
theorem wants_of_listens {half : Half} {call : Call} {stage : Call.Stage} (hsuits : Suits call stage)
    (hhalf : call.half? = some half) (hlistens : stage.listens = true) : wants half call stage = true := by
  cases call with
  | close => cases hhalf
  | read =>
    cases hhalf
    cases stage <;> first | rfl | exact False.elim hsuits | cases hlistens
  | write text =>
    cases hhalf
    cases stage <;> first | rfl | cases hlistens

/-- **Stages and queues agree.** -/
structure Coherent (c : Connection) : Prop where
  /-- Numbers are given to calls in order. -/
  fresh : ∀ n, c.calls.length ≤ n → c.call? n = none
  /-- Calls come to stages of their own. -/
  suits : ∀ {n call stage}, c.At n call stage → Suits call stage
  /-- Only calls that want a half stand in its queue. -/
  queued : ∀ {half n}, n ∈ c.queue half → ∃ call stage, c.At n call stage ∧ wants half call stage = true
  /-- Nobody stands in a queue twice. -/
  nodup : ∀ half, (c.queue half).Nodup
  /-- A call that puts everything on the stream stands first. -/
  first : ∀ {n call deadline}, c.At n call (.flushing deadline) → c.writers.head? = some n

theorem coherent_ofSocket (id : ConnectionId) (config : Config) (socket : Socket) :
    Coherent (ofSocket id config socket) where
  fresh _ _ := rfl
  suits h := by cases h
  queued {half n} h := by cases half <;> cases h
  nodup half := by cases half <;> exact List.nodup_nil
  first h := by cases h

/-- Nobody stands in front of a call that puts everything on the stream. -/
theorem Coherent.eq_of_head {c : Connection} (h : Coherent c) {n m deadline : Nat} {call : Call}
    (hat : c.At n call (.flushing deadline)) (hhead : c.writers.head? = some m) : m = n := by
  rw [h.first hat] at hhead
  exact (Option.some.inj hhead).symm

/-- A call that does not want a half has no place to leave. -/
theorem Coherent.leave_eq {c : Connection} (h : Coherent c) {n : Nat} {call : Call} {stage : Call.Stage}
    (hat : c.At n call stage) (half : Half) (hno : wants half call stage = false) :
    (c.queue half).leave n = c.queue half := by
  refine Queue.leave_of_not_mem fun hmem => ?_
  obtain ⟨call', stage', hat', hwants⟩ := h.queued hmem
  obtain ⟨rfl, rfl⟩ := hat.unique hat'
  rw [hno] at hwants
  cases hwants

/-! ## What a move does -/

/-- **What a move does to stages and queues**: one call goes from a stage to another one. It joins the queues or
    leaves them. -/
structure Shape (c : Connection) (n : Nat) (call : Call) (stage stage' : Call.Stage) (c' : Connection) : Prop where
  /-- The stage that the call has come to. -/
  at_self : c'.At n call stage'
  /-- The others are where they were. -/
  at_other : ∀ m, m ≠ n → c'.call? m = c.call? m
  /-- No calls are made. -/
  length : c'.calls.length = c.calls.length
  /-- The call can come to that stage. -/
  suits : Suits call stage'
  /-- A call that is over stays so. -/
  finished : stage.isOver = true → stage' = stage
  /-- A call that listens goes on with it until it is over. -/
  listens : stage.listens = true → stage'.listens = true ∨ stage'.isOver = true
  /-- A call that puts everything on the stream goes on with it until it is over. -/
  flushes : ∀ deadline, stage = .flushing deadline → stage' = stage ∨ stage'.isOver = true
  /-- The call joins the queues or leaves them. -/
  queues : ∀ half, c'.queue half = (c.queue half).turn n (wants half call stage) (wants half call stage')
  /-- When it puts everything on the stream it stands first, and has the half since then. -/
  first : ∀ deadline, stage' = .flushing deadline →
    c'.writers.head? = some n ∧ (stage = stage' ∨ c.grants .writing n = true)

section shapes

variable {c x : Connection} {n : Nat} {call : Call} {stage stage' : Call.Stage}

/-- A call has come to a stage. -/
theorem shape_setStage (h : c.At n call stage) (hcalls : x.calls = c.calls) (hsuits : Suits call stage')
    (hover : stage.isOver = false) (hlistens : stage.listens = true → stage'.listens = true ∨ stage'.isOver = true)
    (hflushes : ∀ deadline, stage = .flushing deadline → stage' = stage ∨ stage'.isOver = true)
    (hreaders : x.readers = c.readers.turn n (wants .reading call stage) (wants .reading call stage'))
    (hwriters : x.writers = c.writers.turn n (wants .writing call stage) (wants .writing call stage'))
    (hfirst : ∀ deadline, stage' = .flushing deadline →
      x.writers.head? = some n ∧ (stage = stage' ∨ c.grants .writing n = true)) :
    Shape c n call stage stage' (x.setStage n stage') where
  at_self := by
    have hx : x.At n call stage := by
      unfold At call?
      rw [hcalls]
      exact h
    exact at_setStage hx stage'
  at_other m hne := by
    rw [call?_setStage_ne x hne]
    unfold call?
    rw [hcalls]
  length := by
    show (x.calls.map _).length = _
    rw [List.length_map, hcalls]
  suits := hsuits
  finished hover' := by
    rw [hover] at hover'
    cases hover'
  listens := hlistens
  flushes := hflushes
  queues half := by
    cases half
    · exact hreaders
    · exact hwriters
  first := hfirst

/-- A call is over, and may have joined a queue before. -/
theorem shape_conclude (h : c.At n call stage) (hover : stage.isOver = false) (outcome : Call.Outcome)
    (hcalls : x.calls = c.calls) (hreaders : x.readers = c.readers ∨ x.readers = c.readers.join n)
    (hwriters : x.writers = c.writers ∨ x.writers = c.writers.join n) :
    Shape c n call stage (.finished outcome) (x.conclude n outcome) := by
  have leaves : ∀ (half : Half) (q q' : Queue), q' = q ∨ q' = q.join n →
      q'.leave n = q.turn n (wants half call stage) (wants half call (.finished outcome)) := by
    intro half q q' hq
    rw [wants_over]
    rcases hq with rfl | rfl
    · rfl
    · exact Queue.leave_join
  refine shape_setStage (x := { x with writers := x.writers.leave n, readers := x.readers.leave n }) h hcalls ?_
    hover (fun _ => Or.inr rfl) (fun _ _ => Or.inr rfl) (leaves _ _ _ hreaders) (leaves _ _ _ hwriters) ?_
  · cases call <;> trivial
  · intro deadline hstage
    cases hstage

/-- A call stays where it is, and may have joined a queue. -/
theorem shape_stay (h : c.At n call stage) (hcalls : x.calls = c.calls) (hsuits : Suits call stage)
    (hreaders : x.readers = c.readers.turn n (wants .reading call stage) (wants .reading call stage))
    (hwriters : x.writers = c.writers.turn n (wants .writing call stage) (wants .writing call stage))
    (hfirst : ∀ deadline, stage = .flushing deadline → x.writers.head? = some n) :
    Shape c n call stage stage x where
  at_self := by
    unfold At call?
    rw [hcalls]
    exact h
  at_other m _ := by
    unfold call?
    rw [hcalls]
  length := by rw [hcalls]
  suits := hsuits
  finished _ := rfl
  listens := Or.inl
  flushes _ _ := Or.inl rfl
  queues half := by
    cases half
    · exact hreaders
    · exact hwriters
  first deadline hstage := ⟨hfirst deadline hstage, Or.inl rfl⟩

/-- **A call may be given up wherever it has come to.** -/
theorem Shape.conclude (hs : Shape c n call stage stage' x) (hgoes : stage.isOver = false) (outcome : Call.Outcome) :
    Shape c n call stage (.finished outcome) (x.conclude n outcome) where
  at_self := at_conclude hs.at_self outcome
  at_other m hne := by
    have hsame : (x.conclude n outcome).call? m = x.call? m := call?_setStage_ne _ hne _
    exact hsame.trans (hs.at_other m hne)
  length := by
    show (x.calls.map _).length = _
    rw [List.length_map, hs.length]
  suits := by cases call <;> trivial
  finished hover := by
    rw [hgoes] at hover
    cases hover
  listens _ := Or.inr rfl
  flushes _ _ := Or.inr rfl
  queues half := by
    have hleaves : (x.conclude n outcome).queue half = (x.queue half).leave n := by cases half <;> rfl
    rw [hleaves, hs.queues half, Queue.leave_turn, wants_over]
    rfl
  first deadline hstage := by cases hstage

end shapes

/-! ## Waiting -/

section await

variable (c : Connection) (now n deadline : Nat) (cause : Error)

/-- **A call that has to wait stays where it is, or is given up.** -/
theorem await_eq_or : c.await now n deadline cause = c ∨ c.await now n deadline cause = c.fail n cause := by
  unfold await
  split
  · exact Or.inr rfl
  · exact Or.inl rfl

/-- Its stage says which of the two it is. -/
theorem At.await {c : Connection} {n : Nat} {call : Call} {stage : Call.Stage} (hat : c.At n call stage) :
    ∃ stage', (c.await now n deadline cause).At n call stage' ∧
      (stage' = stage ∨ stage' = .finished (.failed cause)) := by
  rcases c.await_eq_or now n deadline cause with he | he
  · rw [he]
    exact ⟨stage, hat, Or.inl rfl⟩
  · rw [he]
    exact ⟨_, at_conclude hat _, Or.inr rfl⟩

/-- Waiting does nothing to the socket. -/
@[simp]
theorem socket_await : (c.await now n deadline cause).socket = c.socket := by
  unfold await
  split <;> rfl

@[simp]
theorem writer_await : (c.await now n deadline cause).writer = c.writer := by
  unfold await
  split <;> rfl

@[simp]
theorem signal_await : (c.await now n deadline cause).signal = c.signal := by
  unfold await
  split <;> rfl

end await

/-- A move behind which the call has to wait has a shape. -/
theorem Shape.await {c x : Connection} {n now deadline : Nat} {call : Call} {stage stage' : Call.Stage}
    {cause : Error} (hs : Shape c n call stage stage' x) (hgoes : stage.isOver = false) :
    ∃ stage'', Shape c n call stage stage'' (x.await now n deadline cause) := by
  rcases x.await_eq_or now n deadline cause with he | he
  · rw [he]
    exact ⟨stage', hs⟩
  · rw [he]
    exact ⟨_, hs.conclude hgoes _⟩

/-- **What both halves of the socket keep, every move keeps.** A move asks the reading half, or hands something to the
    writing half, or leaves the stream. -/
theorem Move.socket_rel {R : Socket → Socket → Prop} (hrefl : ∀ s, R s s) (hread : ∀ s, R s (nextText s).2)
    (hfeed : ∀ (slot : Socket.Slot) s text, R s (slot.feed s text).2.2)
    (hflush : ∀ (slot : Socket.Slot) s, R s (slot.flush s).2.2)
    (hclose : ∀ (slot : Socket.Slot) s, R s (slot.close s).2.2)
    (hleave : ∀ s : Socket, R s { s with wire := s.wire.release }) {c c' : Connection} {now n : Nat} {call : Call}
    {stage : Call.Stage} (hmove : Move c now n call stage c') : R c.socket c'.socket := by
  cases hmove with
  | queuedRead _ _ _ | queuedWrite _ _ _ =>
    rw [socket_await]
    exact hrefl _
  | read deadline _ _ _ hnext | readFailed deadline _ _ _ hnext =>
    have hasked := hread c.socket
    rw [hnext] at hasked
    exact hasked
  | readBlocked deadline _ _ _ hnext =>
    have hasked := hread c.socket
    rw [hnext] at hasked
    rw [socket_await]
    exact hasked
  | @fed text _ slot _ _ _ _ _ hfed | @feedFailed text _ slot _ _ _ _ _ _ hfed =>
    have hkeeps := hfeed slot c.socket text
    rw [hfed] at hkeeps
    exact hkeeps
  | @feedBlocked text _ slot _ _ _ _ _ hfed =>
    have hkeeps := hfeed slot c.socket text
    rw [hfed] at hkeeps
    rw [socket_await]
    exact hkeeps
  | @flushed _ _ slot _ _ _ _ hflushed | @flushFailed _ _ slot _ _ _ _ _ hflushed =>
    have hkeeps := hflush slot c.socket
    rw [hflushed] at hkeeps
    exact hkeeps
  | @flushBlocked _ _ slot _ _ _ _ hflushed =>
    have hkeeps := hflush slot c.socket
    rw [hflushed] at hkeeps
    rw [socket_await]
    exact hkeeps
  | @closed _ _ slot _ _ _ hclosed _ | @closeBlocked _ _ slot _ _ hclosed _ =>
    have hkeeps := hclose slot c.socket
    rw [hclosed] at hkeeps
    exact hkeeps
  | left _ => exact hleave c.socket
  | _ => exact hrefl _

/-- A call that is over stands in no queue, and stays where it is. -/
theorem Coherent.shape_over {c : Connection} (h : Coherent c) {n : Nat} {call : Call} {stage : Call.Stage}
    (hat : c.At n call stage) (hover : stage.isOver = true) : Shape c n call stage stage c := by
  obtain ⟨outcome, rfl⟩ : ∃ outcome, stage = .finished outcome := by
    cases stage <;> first | exact ⟨_, rfl⟩ | cases hover
  have hno := fun half => wants_over half call outcome
  refine shape_stay hat rfl (h.suits hat) ?_ ?_ (by simp)
  · rw [hno]
    exact (h.leave_eq hat .reading (hno .reading)).symm
  · rw [hno]
    exact (h.leave_eq hat .writing (hno .writing)).symm

/-- **Every move has a shape.** -/
theorem Coherent.shape {c c' : Connection} (h : Coherent c) {now n : Nat} {call : Call} {stage : Call.Stage}
    (hat : c.At n call stage) (hmove : Move c now n call stage c') : ∃ stage', Shape c n call stage stage' c' := by
  have hsuits := h.suits hat
  -- a call that wants no half is in no queue, so leaving changes nothing
  have reads (hno : wants .reading call stage = false) : c.readers = c.readers.leave n :=
    (h.leave_eq hat .reading hno).symm
  have writes (hno : wants .writing call stage = false) : c.writers = c.writers.leave n :=
    (h.leave_eq hat .writing hno).symm
  -- moves that end a call come first; it leaves the queue in which it stands, if it stands in one
  cases hmove with
  | refused _ _ | passed _ | bereftFlush _ _ _ | flushed _ _ _ _ | flushFailed _ _ _ _ =>
    exact ⟨_, shape_conclude hat rfl _ rfl (Or.inl rfl) (Or.inl rfl)⟩
  | woken hlistens _ =>
    exact ⟨_, shape_conclude hat (Call.Stage.isOver_of_listens hlistens) _ rfl (Or.inl rfl) (Or.inl rfl)⟩
  | bereftRead _ _ _ _ | read _ _ _ _ _ | readFailed _ _ _ _ _ =>
    exact ⟨_, shape_conclude hat rfl _ rfl (Or.inr rfl) (Or.inl rfl)⟩
  | left _ =>
    exact ⟨_, shape_conclude (x := release { c with readers := _, reader := _ }) hat rfl _ rfl (Or.inr rfl)
      (Or.inl rfl)⟩
  | bereftWrite _ _ _ _ | feedFailed _ _ _ _ _ =>
    exact ⟨_, shape_conclude hat rfl _ rfl (Or.inl rfl) (Or.inr rfl)⟩
  | tested deadline hcall _ =>
    cases call with
    | close => exact absurd rfl hcall
    | read => exact ⟨_, shape_setStage hat rfl trivial rfl (by simp) (by simp) (reads rfl) (writes rfl) (by simp)⟩
    | write text =>
      exact ⟨_, shape_setStage hat rfl trivial rfl (by simp) (by simp) (reads rfl) (writes rfl) (by simp)⟩
  | subscribed deadline =>
    cases call with
    | close => exact False.elim hsuits
    | read => exact ⟨_, shape_setStage hat rfl trivial rfl (by simp) (by simp) rfl (writes rfl) (by simp)⟩
    | write text => exact ⟨_, shape_setStage hat rfl trivial rfl (by simp) (by simp) (reads rfl) rfl (by simp)⟩
  | queuedRead _ _ _ | readBlocked _ _ _ _ _ =>
    exact Shape.await (shape_stay hat rfl trivial rfl (writes rfl) (by simp)) rfl
  | queuedWrite _ _ _ | feedBlocked _ _ _ _ _ =>
    exact Shape.await (shape_stay hat rfl trivial (reads rfl) rfl (by simp)) rfl
  | fed deadline hsignal hqueue _ _ =>
    -- with this move the call obtains the writing half
    have hgrants : c.grants .writing n = true :=
      (grants_iff hat).mpr ⟨⟨deadline, rfl⟩, rfl, hsignal, hqueue⟩
    exact ⟨_, shape_setStage (x := { c with writers := _, socket := _, writer := _ }) hat rfl trivial rfl
      (fun _ => Or.inl rfl) (by simp) (reads rfl) rfl (fun _ _ => ⟨Queue.serves_iff.mp hqueue, Or.inr hgrants⟩)⟩
  | @flushBlocked _ deadline slot slot' socket _ _ _ =>
    cases call with
    | close => exact False.elim hsuits
    | read => exact False.elim hsuits
    | write text =>
      -- it stands first already, so it keeps its place
      have hfirst := h.first hat
      have hjoin := Queue.join_of_mem (List.mem_of_head? hfirst)
      exact Shape.await (shape_setStage (x := { c with socket, writer := some slot' }) hat rfl trivial rfl
        (fun _ => Or.inl rfl) (fun _ _ => Or.inl rfl) (reads rfl) hjoin.symm (fun _ _ => ⟨hfirst, Or.inl rfl⟩)) rfl
  | flagged _ =>
    exact ⟨_, shape_setStage (x := { c with closed := true }) hat rfl trivial rfl (by simp) (by simp) (reads rfl)
      (writes rfl) (by simp)⟩
  | signalled =>
    obtain rfl := hsuits.eq_close rfl
    exact ⟨_, shape_setStage (x := { c with signal := true }) hat rfl trivial rfl (by simp) (by simp)
      (reads rfl) rfl (by simp)⟩
  | queuedClose _ =>
    obtain rfl := hsuits.eq_close rfl
    exact ⟨_, shape_stay hat rfl trivial (reads rfl) rfl (by simp)⟩
  | took deadline _ _ =>
    obtain rfl := hsuits.eq_close rfl
    exact ⟨_, shape_setStage (x := { c with writer := _, writers := _ }) hat rfl trivial rfl
      (by simp) (by simp) (reads rfl) Queue.leave_join (by simp)⟩
  | missed _ _ =>
    obtain rfl := hsuits.eq_close rfl
    exact ⟨_, shape_setStage (x := { c with writer := _, writers := _ }) hat rfl trivial rfl
      (by simp) (by simp) rfl Queue.leave_join (by simp)⟩
  | closed _ _ _ =>
    obtain rfl := hsuits.eq_close rfl
    exact ⟨_, shape_setStage (x := { c with socket := _ }) hat rfl trivial rfl (by simp) (by simp) rfl
      (writes rfl) (by simp)⟩
  | closeBlocked _ _ _ =>
    obtain rfl := hsuits.eq_close rfl
    exact ⟨_, shape_setStage (x := { c with socket := _ }) hat rfl trivial rfl (by simp) (by simp)
      (reads rfl) (writes rfl) (by simp)⟩
  | queuedLeave _ =>
    obtain rfl := hsuits.eq_close rfl
    exact ⟨_, shape_stay hat rfl trivial rfl (writes rfl) (by simp)⟩
  | idle hover => exact ⟨stage, h.shape_over hat hover⟩
  | astray _ => exact False.elim hsuits

/-! ## Stages and queues agree in every run -/

section runs

variable {c c' : Connection} {n : Nat} {call : Call} {stage stage' : Call.Stage}

/-- Behind a move the other calls are where they were. -/
theorem Shape.at_iff (hs : Shape c n call stage stage' c') {m : Nat} (hne : m ≠ n) {call' : Call}
    {stage'' : Call.Stage} : c'.At m call' stage'' ↔ c.At m call' stage'' := by
  unfold At
  rw [hs.at_other m hne]

theorem Coherent.of_shape (h : Coherent c) (hat : c.At n call stage) (hs : Shape c n call stage stage' c') :
    Coherent c' where
  fresh m hm := by
    rw [hs.length] at hm
    have hnone := h.fresh m hm
    have hne : m ≠ n := by
      rintro rfl
      rw [show c.call? m = _ from hat] at hnone
      cases hnone
    rw [hs.at_other m hne, hnone]
  suits {m call' stage''} hat' := by
    by_cases hne : m = n
    · subst hne
      obtain ⟨rfl, rfl⟩ := hs.at_self.unique hat'
      exact hs.suits
    · exact h.suits ((hs.at_iff hne).mp hat')
  queued {half m} hmem := by
    rw [hs.queues half] at hmem
    by_cases hne : m = n
    · subst hne
      refine ⟨call, stage', hs.at_self, ?_⟩
      unfold Queue.turn at hmem
      split at hmem
      · next hwants => exact hwants
      · exact absurd rfl (Queue.mem_leave.mp hmem).2
    · obtain ⟨call', stage'', hat', hwants⟩ := h.queued ((Queue.mem_turn hne).mp hmem)
      exact ⟨call', stage'', (hs.at_iff hne).mpr hat', hwants⟩
  nodup half := by
    rw [hs.queues half]
    exact Queue.nodup_turn (h.nodup half)
  first {m call' deadline} hat' := by
    by_cases hne : m = n
    · subst hne
      obtain ⟨rfl, rfl⟩ := hs.at_self.unique hat'
      exact (hs.first deadline rfl).1
    · show (c'.queue .writing).head? = some m
      rw [hs.queues .writing]
      exact Queue.head?_turn (h.first ((hs.at_iff hne).mp hat')) hne

/-- A new call has done nothing yet, and the others are where they were. -/
theorem Coherent.at_enter (h : Coherent c) {call' : Call} {m : Nat} {stage'' : Call.Stage} :
    (c.enter c.calls.length call).At m call' stage'' ↔
      c.At m call' stage'' ∨ m = c.calls.length ∧ call' = call ∧ stage'' = .begun := by
  have hnew := h.fresh c.calls.length (Nat.le_refl _)
  unfold At
  rw [call?_enter]
  cases hold : c.call? m with
  | some o =>
    have hne : m ≠ c.calls.length := by
      rintro rfl
      rw [hnew] at hold
      cases hold
    rw [Option.some_or]
    exact ⟨Or.inl, fun hat => hat.resolve_right fun he => hne he.1⟩
  | none =>
    rw [Option.none_or]
    constructor
    · intro hat
      split at hat
      · next he =>
        injection hat with hat
        injection hat with _ hcall hstage
        exact Or.inr ⟨he.symm, hcall.symm, hstage.symm⟩
      · cases hat
    · rintro (hat | ⟨rfl, rfl, rfl⟩)
      · cases hat
      · exact if_pos rfl

/-- A new call stands in no queue. -/
theorem Coherent.enter (h : Coherent c) (call : Call) : Coherent (c.enter c.calls.length call) where
  fresh m hm := by
    have hlength : (c.enter c.calls.length call).calls.length = c.calls.length + 1 := List.length_append
    rw [call?_enter, h.fresh m (by omega), if_neg (by omega)]
    rfl
  suits {m call' stage''} hat := by
    rcases h.at_enter.mp hat with hat | ⟨_, _, rfl⟩
    · exact h.suits hat
    · cases call' <;> trivial
  queued hmem := by
    obtain ⟨call', stage'', hat, hwants⟩ := h.queued hmem
    exact ⟨call', stage'', h.at_enter.mpr (Or.inl hat), hwants⟩
  nodup := h.nodup
  first hat := by
    rcases h.at_enter.mp hat with hat | ⟨_, _, hbegun⟩
    · exact h.first hat
    · cases hbegun

theorem at_congr (hcalls : c'.calls = c.calls) : c'.At n call stage ↔ c.At n call stage := by
  unfold At call?
  rw [hcalls]

/-- Changes that touch no stage and no queue. -/
theorem Coherent.congr (h : Coherent c) (hcalls : c'.calls = c.calls)
    (hqueue : ∀ half, c'.queue half = c.queue half) : Coherent c' where
  fresh m hm := by
    unfold call?
    rw [hcalls] at hm ⊢
    exact h.fresh m hm
  suits hat := h.suits ((at_congr hcalls).mp hat)
  queued {half m} hmem := by
    rw [hqueue half] at hmem
    obtain ⟨call', stage'', hat, hwants⟩ := h.queued hmem
    exact ⟨call', stage'', (at_congr hcalls).mpr hat, hwants⟩
  nodup half := by
    rw [hqueue half]
    exact h.nodup half
  first {m call' deadline} hat := by
    show (c'.queue .writing).head? = some m
    rw [hqueue .writing]
    exact h.first ((at_congr hcalls).mp hat)

/-- What the peer does changes no stage and no queue. -/
theorem Coherent.onWire (h : Coherent c) (change : Net.Wire → Net.Wire) : Coherent (c.onWire change) :=
  h.congr rfl fun half => by cases half <;> rfl

end runs

/-! ## Turns -/

/-- **The order in which a half is obtained.** A call that has obtained it has it until it is over, and no other call
    obtains it before. -/
structure Turns (h : History) : Prop where
  /-- Stages and queues agree. -/
  coherent : Coherent h.connection
  /-- A half is obtained once. -/
  nodup : ∀ half, (h.order half).Nodup
  /-- Who has obtained a half is over, or has it still. -/
  turn : ∀ {half n}, n ∈ h.order half → ∃ call stage, h.connection.At n call stage ∧ call.half? = some half ∧
    ((∃ outcome, stage = .finished outcome) ∨ stage.listens = true ∧
      (h.connection.queue half).head? = some n ∧ (h.order half).getLast? = some n)
  /-- A call that puts everything on the stream has obtained the writing half. -/
  flushing : ∀ {n call deadline}, h.connection.At n call (.flushing deadline) → n ∈ h.order .writing

section turns

variable {h : History} {c' : Connection} {n : Nat} {call : Call} {stage stage' : Call.Stage}

/-- The order only grows at its end. -/
theorem order_sublist_granted (h : History) (n : Nat) (half : Half) : (h.order half).Sublist (h.granted n half) := by
  unfold History.granted
  split
  · exact List.sublist_append_left _ _
  · exact List.Sublist.refl _

/-- Whose turn it is waits for its half. -/
theorem at_of_grants {c : Connection} {half : Half} {n : Nat} (hgrants : c.grants half n = true) :
    ∃ call deadline, c.At n call (.waiting deadline) := by
  unfold grants at hgrants
  split at hgrants
  · next number call deadline hcall =>
    obtain rfl : number = n := number_of_call? hcall
    exact ⟨call, deadline, hcall⟩
  · cases hgrants

/-- Only a read takes the reading half. -/
theorem eq_read_of_half {call : Call} (hhalf : call.half? = some .reading) : call = .read := by
  cases call with
  | read => rfl
  | write text => cases hhalf
  | close => cases hhalf

theorem eq_read_of_grants {c : Connection} (hat : c.At n call stage) (hgrants : c.grants .reading n = true) :
    call = .read := by
  obtain ⟨_, hhalf, _, _⟩ := (grants_iff hat).mp hgrants
  exact eq_read_of_half hhalf

theorem not_grants_of_ne_read {c : Connection} (hat : c.At n call stage) (hcall : call ≠ .read) :
    c.grants .reading n = false := by
  rw [← Bool.not_eq_true]
  exact fun hgrants => hcall (eq_read_of_grants hat hgrants)

/-- Only a call that waits obtains a half. -/
theorem not_grants_of_not_waiting {c : Connection} (hat : c.At n call stage)
    (hstage : ∀ deadline, stage ≠ .waiting deadline) {half : Half} : c.grants half n = false := by
  rw [← Bool.not_eq_true]
  intro hgrants
  obtain ⟨⟨deadline, hwaiting⟩, _⟩ := (grants_iff hat).mp hgrants
  exact hstage deadline hwaiting

/-- A call that the queue does not serve obtains no half. -/
theorem not_grants_of_not_serves {c : Connection} (hat : c.At n call stage) {half : Half}
    (hqueue : ((c.queue half).join n).serves n = false) : c.grants half n = false := by
  rw [← Bool.not_eq_true]
  intro hgrants
  obtain ⟨_, _, _, hserves⟩ := (grants_iff hat).mp hgrants
  rw [hqueue] at hserves
  cases hserves

theorem mem_granted {half : Half} {m : Nat} : m ∈ h.granted n half ↔
    m ∈ h.order half ∨ m = n ∧ h.connection.grants half n = true := by
  unfold History.granted
  split
  · next hnew =>
    rw [Bool.and_eq_true] at hnew
    rw [List.mem_append, List.mem_singleton]
    exact or_congr Iff.rfl ⟨fun he => ⟨he, hnew.1⟩, And.left⟩
  · next hold =>
    constructor
    · exact Or.inl
    · rintro (hm | ⟨rfl, hgrants⟩)
      · exact hm
      · simpa [hgrants] using hold

theorem granted_of_not_grants {half : Half} (hno : h.connection.grants half n = false) :
    h.granted n half = h.order half := by
  unfold History.granted
  rw [hno]
  rfl

theorem granted_of_mem {half : Half} (hmem : n ∈ h.order half) : h.granted n half = h.order half := by
  unfold History.granted
  rw [List.contains_iff_mem.mpr hmem, Bool.not_true, Bool.and_false]
  rfl

/-- A half is obtained once more only by a call that has not obtained it. -/
theorem nodup_granted {half : Half} (hnodup : (h.order half).Nodup) : (h.granted n half).Nodup := by
  by_cases hmem : n ∈ h.order half
  · rw [granted_of_mem hmem]
    exact hnodup
  · unfold History.granted
    split
    · exact List.nodup_append.mpr ⟨hnodup, by simp, fun a ha b hb he => by
        rw [List.mem_singleton.mp hb] at he
        exact hmem (he ▸ ha)⟩
    · exact hnodup

/-- **Who has a half has obtained it last**, and all that have obtained it before are over. -/
theorem Turns.last (ht : Turns h) {half : Half} (hmem : n ∈ h.order half) (hat : h.connection.At n call stage)
    (hgoes : stage.isOver = false) : ∃ front, h.order half = front ++ [n] ∧ n ∉ front ∧
      ∀ m ∈ front, ∃ call outcome, h.connection.At m call (.finished outcome) := by
  obtain ⟨call', stage'', hat', hhalf, ⟨outcome, rfl⟩ | ⟨_, hhead, hlast⟩⟩ := ht.turn hmem
  · obtain ⟨rfl, rfl⟩ := hat.unique hat'
    cases hgoes
  · obtain ⟨front, hfront⟩ := List.getLast?_eq_some_iff.mp hlast
    have hnodup := ht.nodup half
    rw [hfront] at hnodup
    have hn : n ∉ front := fun hn =>
      (List.nodup_append.mp hnodup).2.2 n hn n (List.mem_singleton_self n) rfl
    refine ⟨front, hfront, hn, fun m hm => ?_⟩
    have hm' : m ∈ h.order half := by
      rw [hfront]
      exact List.mem_append_left _ hm
    obtain ⟨call'', stage'', hat'', _, ⟨outcome, rfl⟩ | ⟨_, hhead', _⟩⟩ := ht.turn hm'
    · exact ⟨call'', outcome, hat''⟩
    · -- two calls would stand first
      rw [hhead] at hhead'
      injection hhead' with he
      exact absurd (he ▸ hm) hn

/-- **When a call has its turn, all that have had theirs are over.** -/
theorem Turns.turn_of_grants (ht : Turns h) (hat : h.connection.At n call stage) {half : Half}
    (hgrants : h.connection.grants half n = true) : ∃ front, h.granted n half = front ++ [n] ∧ n ∉ front ∧
      ∀ m ∈ front, ∃ call outcome, h.connection.At m call (.finished outcome) := by
  obtain ⟨⟨deadline, rfl⟩, _, _, hserves⟩ := (grants_iff hat).mp hgrants
  -- it may have obtained the half with an earlier step, and still wait for something to read
  by_cases hmem : n ∈ h.order half
  · rw [granted_of_mem hmem]
    exact ht.last hmem hat rfl
  · refine ⟨h.order half, ?_, hmem, fun m hm => ?_⟩
    · unfold History.granted
      rw [hgrants, Bool.true_and, if_pos]
      rw [Bool.not_eq_true', ← Bool.not_eq_true]
      exact fun hcontains => hmem (List.contains_iff_mem.mp hcontains)
    · obtain ⟨call', stage', hat', _, ⟨outcome, rfl⟩ | ⟨_, hhead, _⟩⟩ := ht.turn hm
      · exact ⟨call', outcome, hat'⟩
      · obtain rfl := Queue.eq_of_serves_join hserves hhead
        exact absurd hm hmem

/-- A call that has obtained a half keeps it until it is over. -/
theorem Turns.turn_of_shape (ht : Turns h) (hat : h.connection.At n call stage)
    (hs : Shape h.connection n call stage stage' c') {half : Half} (hmem : n ∈ h.granted n half) :
    call.half? = some half ∧ ((∃ outcome, stage' = .finished outcome) ∨ stage'.listens = true ∧
      (c'.queue half).head? = some n ∧ (h.granted n half).getLast? = some n) := by
  -- with its turn at the latest it stands first, and it has obtained the half last
  have before : call.half? = some half ∧ ((∃ outcome, stage = .finished outcome) ∨ stage.listens = true ∧
      ((h.connection.queue half).join n).head? = some n ∧ (h.granted n half).getLast? = some n) := by
    rcases mem_granted.mp hmem with hold | ⟨_, hgrants⟩
    · obtain ⟨call', stage'', hat', hhalf, hturn⟩ := ht.turn hold
      obtain ⟨rfl, rfl⟩ := hat.unique hat'
      refine ⟨hhalf, hturn.imp_right fun ⟨hlistens, hhead, hlast⟩ => ⟨hlistens, Queue.head?_join hhead, ?_⟩⟩
      rw [granted_of_mem hold]
      exact hlast
    · obtain ⟨⟨deadline, hstage⟩, hhalf, _, hserves⟩ := (grants_iff hat).mp hgrants
      obtain ⟨front, hfront, _, _⟩ := ht.turn_of_grants hat hgrants
      refine ⟨hhalf, Or.inr ⟨by rw [hstage]; rfl, Queue.serves_iff.mp hserves, ?_⟩⟩
      rw [hfront]
      exact List.getLast?_concat
  refine ⟨before.1, ?_⟩
  rcases before.2 with ⟨outcome, rfl⟩ | ⟨hlistens, hhead, hlast⟩
  · exact Or.inl ⟨outcome, hs.finished rfl⟩
  · rcases hs.listens hlistens with hlistens' | hover
    · refine Or.inr ⟨hlistens', ?_, hlast⟩
      rw [hs.queues half, wants_of_listens (ht.coherent.suits hat) before.1 hlistens,
        wants_of_listens hs.suits before.1 hlistens']
      exact hhead
    · cases stage' with
      | finished outcome => exact Or.inl ⟨outcome, rfl⟩
      | _ => cases hover

theorem Turns.move (ht : Turns h) {now : Nat} (hat : h.connection.At n call stage)
    (hmove : Move h.connection now n call stage c') : Turns (h.moved n c') := by
  obtain ⟨stage', hs⟩ := ht.coherent.shape hat hmove
  constructor
  case coherent => exact ht.coherent.of_shape hat hs
  case nodup => exact fun half => nodup_granted (ht.nodup half)
  case turn =>
    intro half m hmem
    by_cases hne : m = n
    · subst hne
      obtain ⟨hhalf, hturn⟩ := ht.turn_of_shape hat hs hmem
      exact ⟨call, stage', hs.at_self, hhalf, hturn⟩
    · have hold : m ∈ h.order half := (mem_granted.mp hmem).resolve_right fun he => hne he.1
      obtain ⟨call', stage'', hat', hhalf, hturn⟩ := ht.turn hold
      refine ⟨call', stage'', (hs.at_iff hne).mpr hat', hhalf, ?_⟩
      refine hturn.imp_right fun ⟨hlistens, hhead, hlast⟩ => ⟨hlistens, ?_, ?_⟩
      · show (c'.queue half).head? = some m
        rw [hs.queues half]
        exact Queue.head?_turn hhead hne
      · -- nobody obtains the half while another call has it
        have hno : h.connection.grants half n = false := by
          rw [← Bool.not_eq_true]
          intro hgrants
          obtain ⟨_, _, _, hserves⟩ := (grants_iff hat).mp hgrants
          exact hne (Queue.eq_of_serves_join hserves hhead)
        show (h.granted n half).getLast? = some m
        rw [granted_of_not_grants hno]
        exact hlast
  case flushing =>
    intro m call' deadline hat'
    show m ∈ h.granted n .writing
    rw [mem_granted]
    by_cases hne : m = n
    · subst hne
      obtain ⟨rfl, rfl⟩ := hs.at_self.unique hat'
      rcases (hs.first deadline rfl).2 with rfl | hgrants
      · exact Or.inl (ht.flushing hat)
      · exact Or.inr ⟨rfl, hgrants⟩
    · exact Or.inl (ht.flushing ((hs.at_iff hne).mp hat'))

/-- Changes that leave calls, queues and notes alone. -/
theorem Turns.congr {h' : History} (ht : Turns h) (hcalls : h'.connection.calls = h.connection.calls)
    (hqueue : ∀ half, h'.connection.queue half = h.connection.queue half) (horder : h'.order = h.order) :
    Turns h' where
  coherent := ht.coherent.congr hcalls hqueue
  nodup := horder ▸ ht.nodup
  turn {half m} hmem := by
    rw [horder] at hmem ⊢
    obtain ⟨call', stage'', hat, hturn⟩ := ht.turn hmem
    rw [hqueue half]
    exact ⟨call', stage'', (at_congr hcalls).mpr hat, hturn⟩
  flushing hat := horder ▸ ht.flushing ((at_congr hcalls).mp hat)

theorem Turns.other (ht : Turns h) {event : Event} (hevent : ∀ now n, event ≠ .step now n) :
    Turns (h.after event) := by
  rcases Event.enter_or_peer hevent with ⟨call, rfl⟩ | ⟨act, rfl⟩
  · constructor
    case coherent => exact ht.coherent.enter call
    case nodup => exact ht.nodup
    case turn =>
      intro half m hmem
      obtain ⟨call', stage'', hat, hturn⟩ := ht.turn hmem
      exact ⟨call', stage'', ht.coherent.at_enter.mpr (Or.inl hat), hturn⟩
    case flushing =>
      intro m call' deadline hat
      rcases ht.coherent.at_enter.mp hat with hat | ⟨_, _, hbegun⟩
      · exact ht.flushing hat
      · cases hbegun
  · exact ht.congr rfl (fun half => by cases half <;> rfl) rfl

/-- **In every run a half is obtained by one call after another.** -/
theorem turns_run (id : ConnectionId) (config : Config) (socket : Socket) (events : List Event) :
    Turns ((History.start (ofSocket id config socket)).run events) := by
  refine History.run_of_move (Q := fun _ => True) (fun ht hat hmove => ht.move hat hmove)
    (fun ht _ hevent => ht.other hevent) ?_ (fun _ _ => trivial)
  exact ⟨coherent_ofSocket id config socket, fun _ => List.nodup_nil, fun hmem => (by cases hmem),
    fun hat => (by cases hat)⟩

end turns

end Connection

end TextSocket
