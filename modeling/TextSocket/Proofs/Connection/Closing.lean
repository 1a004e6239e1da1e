import TextSocket.Proofs.Connection.Order

/-!
# `Proofs.Connection.Closing` — a connection is closed by one call

Closing takes five steps of one call, and between them all other calls may take steps of theirs. What may be found
in between is a matter of how far the call that closes has come (`Call.Stage.gates`): the flag is set before the
signal, the signal before the writing half is taken away, and that before the reading half. So the invariant names
the call, and says that the connection is as far as its stage says (`Guarded`).

Everything that closing promises follows (`ClosesSafely`). Nothing of it is ever undone. No other call that closes
touches the socket. A call that comes late is turned away, and one that waits is woken: it looks at the signal before
anything else. And the call that closes waits for a half only while the call that has it is about to be woken, so
it comes to its end.

## Contents

* `Gates`, `Call.Stage.gates` — how far a connection has been closed;
* `Guarded`, `guarded_run` — the invariant;
* `ClosesSafely`, `closes_safely` — what closing promises, in every run.
-/

namespace TextSocket

namespace Connection

/-- How far a connection has been closed. -/
structure Gates where
  /-- Whether the flag is set. -/
  flag : Bool
  /-- Whether the signal is set. -/
  signal : Bool
  /-- Whether the writing half has been taken away. -/
  writing : Bool
  /-- Whether the reading half has been taken away. -/
  reading : Bool
  deriving DecidableEq, Repr

/-- How far this connection has been closed. -/
def gates (c : Connection) : Gates := ⟨c.closed, c.signal, c.writer.isNone, !c.reader⟩

end Connection

/-- How far the call that closes has closed the connection when it has come to a stage. -/
def Call.Stage.gates : Call.Stage → Connection.Gates
  | .flagged => ⟨true, false, false, false⟩
  | .signalled => ⟨true, true, false, false⟩
  | .closing _ _ | .leaving => ⟨true, true, true, false⟩
  | .finished _ => ⟨true, true, true, true⟩
  | _ => ⟨false, false, false, false⟩

/-- How many steps a call that closes has before it, if none of them has to wait. -/
def Call.Stage.distance : Call.Stage → Nat
  | .finished _ => 0
  | .leaving => 1
  | .closing _ _ => 2
  | .signalled => 3
  | .flagged => 4
  | _ => 5

namespace Connection

/-! ## The invariant -/

/-- A connection whose socket and halves are those of another one. -/
structure Untouched (c c' : Connection) : Prop where
  /-- The socket is the same. -/
  socket : c'.socket = c.socket
  /-- The writing half is the same. -/
  writer : c'.writer = c.writer
  /-- The reading half is the same. -/
  reader : c'.reader = c.reader

/-- **One call closes, and the connection is closed as far as that call has come.** -/
structure Guarded (h : History) : Prop where
  /-- Stages and queues agree. -/
  coherent : Coherent h.connection
  /-- Before a call closes, nothing is closed. -/
  clear : h.closer = none → h.connection.gates = ⟨false, false, false, false⟩
  /-- Then the connection is as far as that call. -/
  closer : ∀ n, h.closer = some n → ∃ stage, h.connection.At n .close stage ∧
    (stage.closes = true ∨ stage = .finished .done) ∧ h.connection.gates = stage.gates
  /-- When it is over, the stream has been left. -/
  released : ∀ n outcome, h.closer = some n → h.connection.At n .close (.finished outcome) →
    h.connection.socket.wire.released = true
  /-- Every other call that closes has done nothing, or is over. -/
  others : ∀ {n stage}, h.connection.At n .close stage → h.closer ≠ some n →
    stage = .begun ∨ stage = .finished .done

section moves

variable {c c' : Connection} {now n : Nat} {call : Call} {stage : Call.Stage}

theorem gates_await (c : Connection) (now n deadline : Nat) (cause : Error) :
    (c.await now n deadline cause).gates = c.gates := by
  unfold await
  split <;> rfl

/-- **Reads and writes close nothing.** -/
theorem Move.gates_eq (hmove : Move c now n call stage c') (hsuits : Suits call stage) (hcall : call ≠ .close) :
    c'.gates = c.gates := by
  have other : stage.closes = true → False := fun hcloses => hcall (hsuits.eq_close hcloses)
  cases hmove with
  | refused _ _ | tested _ _ _ | subscribed _ | woken _ _ | bereftRead _ _ _ _ | read _ _ _ _ _
    | readFailed _ _ _ _ _ | bereftWrite _ _ _ _ | bereftFlush _ _ _ | idle _ => rfl
  | passed _ | flagged _ | astray _ => exact absurd rfl hcall
  | queuedRead _ _ _ | readBlocked _ _ _ _ _ | queuedWrite _ _ _ =>
    rw [gates_await]
    rfl
  | fed _ _ _ hwriter _ | feedFailed _ _ _ hwriter _ | flushed _ _ hwriter _ | flushFailed _ _ hwriter _ =>
    unfold gates
    rw [hwriter]
    rfl
  | feedBlocked _ _ _ hwriter _ | flushBlocked _ _ hwriter _ =>
    rw [gates_await]
    unfold gates
    rw [hwriter]
    rfl
  | signalled | queuedClose _ | took _ _ _ | missed _ _ | closed _ _ _ | closeBlocked _ _ _ | queuedLeave _
    | left _ => exact (other rfl).elim

/-- **Nobody touches a connection behind the signal**, except for the call that closes. -/
theorem Move.untouched (hmove : Move c now n call stage c') (hsuits : Suits call stage) (hcall : call ≠ .close)
    (hsignal : c.signal = true) : Untouched c c' := by
  have other : stage.closes = true → False := fun hcloses => hcall (hsuits.eq_close hcloses)
  have clear : c.signal = false → False := fun hclear => by
    rw [hsignal] at hclear
    cases hclear
  cases hmove with
  | refused _ _ | tested _ _ _ | subscribed _ | woken _ _ | idle _ => exact ⟨rfl, rfl, rfl⟩
  | passed _ | flagged _ | astray _ => exact absurd rfl hcall
  | queuedRead _ hclear _ | readBlocked _ hclear _ _ _ | bereftRead _ hclear _ _ | read _ hclear _ _ _
    | readFailed _ hclear _ _ _ | queuedWrite _ hclear _ | bereftWrite _ hclear _ _ | fed _ hclear _ _ _
    | feedFailed _ hclear _ _ _ | feedBlocked _ hclear _ _ _ | bereftFlush _ hclear _ | flushed _ hclear _ _
    | flushFailed _ hclear _ _ | flushBlocked _ hclear _ _ => exact (clear hclear).elim
  | signalled | queuedClose _ | took _ _ _ | missed _ _ | closed _ _ _ | closeBlocked _ _ _ | queuedLeave _
    | left _ => exact (other rfl).elim

/-- Whether the call that closes may have to wait: for the calls in front of it in a queue, or for room on the
    stream. -/
def Hindered (c : Connection) (now n : Nat) (stage : Call.Stage) : Prop :=
  (∃ half, wants half .close stage = true ∧ ((c.queue half).join n).serves n = false) ∨
    ∃ slot deadline, stage = .closing slot deadline ∧ now < deadline

/-- **The call that closes takes the connection with it**, from one stage to the next. -/
theorem Move.gates_of_closes (hmove : Move c now n .close stage c') (hat : c.At n .close stage)
    (hcloses : stage.closes = true) (hgates : c.gates = stage.gates) :
    ∃ stage', c'.At n .close stage' ∧ (stage'.closes = true ∨ stage' = .finished .done) ∧ c'.gates = stage'.gates ∧
      (stage'.distance < stage.distance ∨ Hindered c now n stage) ∧
      (∀ outcome, stage' = .finished outcome → c'.socket.wire.released = true) := by
  have hflag := congrArg Gates.flag hgates
  have hsignal := congrArg Gates.signal hgates
  have hwriting := congrArg Gates.writing hgates
  have hreading := congrArg Gates.reading hgates
  simp only [gates] at hflag hsignal hwriting hreading
  cases hmove with
  | refused _ _ | tested _ _ _ | passed _ | flagged _ | subscribed _ | bereftFlush _ _ _ | flushed _ _ _ _
    | flushFailed _ _ _ _ | flushBlocked _ _ _ _ | astray _ => cases hcloses
  | woken hlistens _ =>
    rw [Call.Stage.listens_of_closes hcloses] at hlistens
    cases hlistens
  | idle hover =>
    rw [Call.Stage.isOver_of_closes hcloses] at hover
    cases hover
  | signalled =>
    refine ⟨_, at_setStage (c := { c with signal := true }) hat _, Or.inl rfl, ?_, Or.inl (by decide), by simp⟩
    simp [gates, Call.Stage.gates, setStage, hflag, hwriting, hreading]
  | queuedClose hqueue =>
    exact ⟨_, hat, Or.inl rfl, hgates, Or.inr (Or.inl ⟨.writing, rfl, hqueue⟩), by simp⟩
  | took deadline _ _ =>
    refine ⟨_, at_setStage (c := { c with writer := _, writers := _ }) hat _, Or.inl rfl, ?_,
      Or.inl (by simp [Call.Stage.distance]), by simp⟩
    simp [gates, Call.Stage.gates, setStage, hflag, hsignal, hreading]
  | missed _ hwriter =>
    rw [hwriter] at hwriting
    cases hwriting
  | closed deadline _ _ =>
    refine ⟨_, at_setStage (c := { c with socket := _ }) hat _, Or.inl rfl, ?_,
      Or.inl (by simp [Call.Stage.distance]), by simp⟩
    simp [gates, Call.Stage.gates, setStage, hflag, hsignal, hreading, hwriting]
  | closeBlocked deadline _ hearly =>
    refine ⟨_, at_setStage (c := { c with socket := _ }) hat _, Or.inl rfl, ?_,
      Or.inr (Or.inr ⟨_, _, rfl, hearly⟩), by simp⟩
    simp [gates, Call.Stage.gates, setStage, hflag, hsignal, hreading, hwriting]
  | queuedLeave hqueue =>
    exact ⟨_, hat, Or.inl rfl, hgates, Or.inr (Or.inl ⟨.reading, rfl, hqueue⟩), by simp⟩
  | left _ =>
    refine ⟨_, at_setStage (c := { c with writers := _, reader := _, readers := _, socket := _ }) hat _, Or.inr rfl,
      ?_, Or.inl (by decide), fun _ _ => rfl⟩
    simp [gates, Call.Stage.gates, conclude, setStage, release, hflag, hsignal, hwriting]

/-- Nothing that is closed is opened again. -/
structure Gates.Within (g g' : Gates) : Prop where
  /-- The flag stays set. -/
  flag : g.flag = true → g'.flag = true
  /-- The signal stays set. -/
  signal : g.signal = true → g'.signal = true
  /-- The writing half stays away. -/
  writing : g.writing = true → g'.writing = true
  /-- The reading half stays away. -/
  reading : g.reading = true → g'.reading = true

theorem Gates.Within.refl (g : Gates) : g.Within g :=
  ⟨fun h => h, fun h => h, fun h => h, fun h => h⟩

theorem Gates.Within.trans {g g' g'' : Gates} (h : g.Within g') (k : g'.Within g'') : g.Within g'' :=
  ⟨k.flag ∘ h.flag, k.signal ∘ h.signal, k.writing ∘ h.writing, k.reading ∘ h.reading⟩

theorem Move.gates_within (hmove : Move c now n call stage c') (hsuits : Suits call stage) :
    c.gates.Within c'.gates := by
  by_cases hcall : call = .close
  · subst hcall
    cases hmove with
    | refused hcall _ | tested _ hcall _ => exact absurd rfl hcall
    | subscribed _ | bereftFlush _ _ _ | flushed _ _ _ _ | flushFailed _ _ _ _ | flushBlocked _ _ _ _ =>
      exact False.elim hsuits
    | flagged _ => exact { Gates.Within.refl c.gates with flag := fun _ => rfl }
    | signalled => exact { Gates.Within.refl c.gates with signal := fun _ => rfl }
    | took _ _ _ | missed _ _ => exact { Gates.Within.refl c.gates with writing := fun _ => rfl }
    | left _ => exact { Gates.Within.refl c.gates with reading := fun _ => rfl }
    | _ => exact Gates.Within.refl _
  · rw [hmove.gates_eq hsuits hcall]
    exact Gates.Within.refl _

/-- **Only a call that closes sets the flag**, and it does so with its first step. -/
theorem Move.sets (hmove : Move c now n call stage c') (hsuits : Suits call stage) (hclear : c.closed = false)
    (hset : c'.closed = true) : call = .close ∧ stage = .begun := by
  by_cases hcall : call = .close
  · subst hcall
    cases hmove with
    | flagged _ => exact ⟨rfl, rfl⟩
    | refused hcall _ | tested _ hcall _ => exact absurd rfl hcall
    | subscribed _ | bereftFlush _ _ _ | flushed _ _ _ _ | flushFailed _ _ _ _ | flushBlocked _ _ _ _ =>
      exact False.elim hsuits
    | _ =>
      have hset : c.closed = true := hset
      rw [hclear] at hset
      cases hset
  · have hsame := congrArg Gates.flag (hmove.gates_eq hsuits hcall)
    rw [show c'.gates.flag = true from hset, show c.gates.flag = false from hclear] at hsame
    cases hsame

end moves

section runs

variable {h : History} {c' : Connection} {n : Nat} {call : Call} {stage : Call.Stage}

theorem Guarded.flag_of_closer (hg : Guarded h) (hcloser : h.closer = some n) : h.connection.closed = true := by
  obtain ⟨stage, _, hstage, hgates⟩ := hg.closer n hcloser
  have hflag := congrArg Gates.flag hgates
  rcases hstage with hcloses | rfl
  · cases stage <;> first | exact hflag | cases hcloses
  · exact hflag

/-- Whoever is on the way to close is the one that closes. -/
theorem Guarded.closer_of_closes (hg : Guarded h) (hat : h.connection.At n .close stage)
    (hcloses : stage.closes = true) : h.closer = some n := by
  by_cases hcloser : h.closer = some n
  · exact hcloser
  · rcases hg.others hat hcloser with rfl | rfl
    · cases hcloses
    · cases hcloses

/-- The call that closes is still the one that has closed before. -/
theorem closer_moved (hclosed : h.connection.closed = true ∨ c'.closed = h.connection.closed) :
    (h.moved n c').closer = h.closer := by
  unfold History.moved
  simp only
  rcases hclosed with hclosed | hclosed
  · rw [hclosed]
    rfl
  · rw [hclosed]
    cases h.connection.closed <;> rfl

/-- A move of another call than the one that closes, if it leaves everything as far closed as it was. -/
theorem Guarded.aside (hg : Guarded h) (hat : h.connection.At n call stage) {stage' : Call.Stage}
    (hs : Shape h.connection n call stage stage' c') (hother : h.closer ≠ some n)
    (hstage : call = .close → stage' = .begun ∨ stage' = .finished .done) (hgates : c'.gates = h.connection.gates)
    (hreleased : h.connection.signal = true → c'.socket = h.connection.socket) : Guarded (h.moved n c') := by
  have hsame : (h.moved n c').closer = h.closer := closer_moved (Or.inr (congrArg Gates.flag hgates))
  have hne : ∀ {m}, h.closer = some m → m ≠ n := by
    rintro m hm rfl
    exact hother hm
  constructor
  case coherent => exact hg.coherent.of_shape hat hs
  case clear =>
    intro hnone
    rw [hsame] at hnone
    exact hgates.trans (hg.clear hnone)
  case closer =>
    intro m hm
    rw [hsame] at hm
    obtain ⟨stage'', hat', hfar, hgates'⟩ := hg.closer m hm
    exact ⟨stage'', (hs.at_iff (hne hm)).mpr hat', hfar, hgates.trans hgates'⟩
  case released =>
    -- the call that closes is over, so the signal is set, and the socket is as it was
    intro m outcome hm hover
    rw [hsame] at hm
    have hover' := (hs.at_iff (hne hm)).mp hover
    obtain ⟨stage'', hat', _, hgates'⟩ := hg.closer m hm
    obtain ⟨_, rfl⟩ := hat'.unique hover'
    show c'.socket.wire.released = true
    rw [hreleased (congrArg Gates.signal hgates')]
    exact hg.released m outcome hm hover'
  case others =>
    intro m stage'' hm hclosed
    rw [hsame] at hclosed
    by_cases he : m = n
    · subst he
      obtain ⟨hcall, rfl⟩ := hs.at_self.unique hm
      exact hstage hcall.symm
    · exact hg.others ((hs.at_iff he).mp hm) hclosed

/-- A move of the call that closes. -/
theorem Guarded.ahead (hg : Guarded h) {now : Nat} (hat : h.connection.At n .close stage)
    (hcloser : h.closer = some n) (hmove : Move h.connection now n .close stage c') : Guarded (h.moved n c') := by
  obtain ⟨stage', hs⟩ := hg.coherent.shape hat hmove
  have hsame : (h.moved n c').closer = h.closer := closer_moved (Or.inl (hg.flag_of_closer hcloser))
  obtain ⟨stage'', hat', hfar, hgates⟩ := hg.closer n hcloser
  obtain ⟨_, rfl⟩ := hat.unique hat'
  -- the call is on its way, or it is over and does nothing
  have hnext : ∃ next, c'.At n .close next ∧ (next.closes = true ∨ next = .finished .done) ∧
      c'.gates = next.gates ∧ ∀ outcome, next = .finished outcome → c'.socket.wire.released = true := by
    rcases hfar with hcloses | rfl
    · obtain ⟨next, hat'', hfar', hgates', _, hreleased⟩ := hmove.gates_of_closes hat hcloses hgates
      exact ⟨next, hat'', hfar', hgates', hreleased⟩
    · cases hmove with
      | woken hlistens _ => cases hlistens
      | idle _ => exact ⟨_, hat, Or.inr rfl, hgates, fun outcome _ => hg.released n _ hcloser hat⟩
  obtain ⟨next, hat'', hfar', hgates', hreleased⟩ := hnext
  constructor
  case coherent => exact hg.coherent.of_shape hat hs
  case clear =>
    intro hnone
    rw [hsame, hcloser] at hnone
    cases hnone
  case closer =>
    intro m hm
    rw [hsame, hcloser] at hm
    injection hm with hm
    subst hm
    exact ⟨next, hat'', hfar', hgates'⟩
  case released =>
    intro m outcome hm hover
    rw [hsame, hcloser] at hm
    injection hm with hm
    subst hm
    exact hreleased outcome (hat''.unique hover).2.symm
  case others =>
    intro m stage'' hm hclosed
    rw [hsame, hcloser] at hclosed
    have hne : m ≠ n := fun he => hclosed (by rw [he])
    exact hg.others ((hs.at_iff hne).mp hm) (by rw [hcloser]; exact hclosed)

/-- A call becomes the one that closes. -/
theorem Guarded.first (hg : Guarded h) (hat : h.connection.At n .close .begun)
    (hclear : h.connection.closed = false) :
    Guarded (h.moved n ({ h.connection with closed := true }.setStage n .flagged)) := by
  have hmove : Move h.connection 0 n _ _ _ := .flagged hclear
  obtain ⟨stage', hs⟩ := hg.coherent.shape hat hmove
  have hnone : h.closer = none := by
    cases hcloser : h.closer with
    | none => rfl
    | some m =>
      rw [hg.flag_of_closer hcloser] at hclear
      cases hclear
  have hself : (h.moved n ({ h.connection with closed := true }.setStage n .flagged)).closer = some n := by
    unfold History.moved setStage
    simp only [hclear]
    rfl
  have hflagged : (({ h.connection with closed := true } : Connection).setStage n .flagged).At n .close .flagged :=
    at_setStage (c := { h.connection with closed := true }) hat .flagged
  have hgates := hg.clear hnone
  constructor
  case coherent => exact hg.coherent.of_shape hat hs
  case clear =>
    intro hno
    rw [hself] at hno
    cases hno
  case closer =>
    intro m hm
    rw [hself] at hm
    injection hm with hm
    subst hm
    refine ⟨.flagged, hflagged, Or.inl rfl, ?_⟩
    -- everything but the flag is as clear as before
    have hsignal := congrArg Gates.signal hgates
    have hwriting := congrArg Gates.writing hgates
    have hreading := congrArg Gates.reading hgates
    simp only [gates] at hsignal hwriting hreading
    simp [gates, Call.Stage.gates, History.moved, setStage, hsignal, hwriting, hreading]
  case released =>
    intro m outcome hm hover
    rw [hself] at hm
    injection hm with hm
    subst hm
    cases (hflagged.unique hover).2
  case others =>
    intro m stage'' hm hclosed
    rw [hself] at hclosed
    have hne : m ≠ n := fun he => hclosed (by rw [he])
    exact hg.others ((hs.at_iff hne).mp hm) (by rw [hnone]; simp)

theorem Guarded.move (hg : Guarded h) {now : Nat} (hat : h.connection.At n call stage)
    (hmove : Move h.connection now n call stage c') : Guarded (h.moved n c') := by
  obtain ⟨stage', hs⟩ := hg.coherent.shape hat hmove
  have hsuits := hg.coherent.suits hat
  by_cases hcall : call = .close
  · subst hcall
    by_cases hcloser : h.closer = some n
    · exact hg.ahead hat hcloser hmove
    · rcases hg.others hat hcloser with rfl | rfl
      · cases hmove with
        | refused hcall _ | tested _ hcall _ => exact absurd rfl hcall
        | passed _ =>
          refine hg.aside hat hs hcloser (fun _ => Or.inr ?_) rfl fun _ => rfl
          exact (hs.at_self.unique (at_conclude hat _)).2.symm
        | flagged hclear => exact hg.first hat hclear
        | woken hlistens _ => cases hlistens
        | idle hover => cases hover
      · cases hmove with
        | woken hlistens _ => cases hlistens
        | idle _ => exact hg.aside hat hs hcloser (fun _ => Or.inr (hs.finished rfl)) rfl fun _ => rfl
  · refine hg.aside hat hs (fun hcloser => ?_) (fun he => absurd he hcall) (hmove.gates_eq hsuits hcall)
      fun hsignal => (hmove.untouched hsuits hcall hsignal).socket
    obtain ⟨stage'', hat', _⟩ := hg.closer n hcloser
    exact hcall (hat.unique hat').1.symm

/-- What the peer does closes nothing. -/
theorem Guarded.peer (hg : Guarded h) (act : Net.PeerAct) : Guarded (h.after (.peer act)) := by
  have hat : ∀ {m call' stage''}, (h.after (.peer act)).connection.At m call' stage'' ↔
      h.connection.At m call' stage'' := at_congr rfl
  constructor
  case coherent => exact hg.coherent.onWire act.apply
  case clear => exact hg.clear
  case closer =>
    intro m hm
    obtain ⟨stage'', hat', hfar, hgates⟩ := hg.closer m hm
    exact ⟨stage'', hat.mpr hat', hfar, hgates⟩
  case released =>
    intro m outcome hm hover
    show (act.apply h.connection.socket.wire).released = true
    rw [(act.affects _).released_eq]
    exact hg.released m outcome hm (hat.mp hover)
  case others =>
    intro m stage'' hm hclosed
    exact hg.others (hat.mp hm) hclosed

theorem Guarded.other (hg : Guarded h) {event : Event} (hevent : ∀ now n, event ≠ .step now n) :
    Guarded (h.after event) := by
  rcases Event.enter_or_peer hevent with ⟨call, rfl⟩ | ⟨act, rfl⟩
  · have hnew : ∀ {m call' stage''}, h.connection.At m call' stage'' →
        (h.after (.enter call)).connection.At m call' stage'' :=
      fun hm => hg.coherent.at_enter.mpr (Or.inl hm)
    constructor
    case coherent => exact hg.coherent.enter call
    case clear => exact hg.clear
    case closer =>
      intro m hm
      obtain ⟨stage'', hat', hfar, hgates⟩ := hg.closer m hm
      exact ⟨stage'', hnew hat', hfar, hgates⟩
    case released =>
      intro m outcome hm hover
      rcases hg.coherent.at_enter.mp hover with hover | ⟨_, _, hbegun⟩
      · exact hg.released m outcome hm hover
      · cases hbegun
    case others =>
      intro m stage'' hm hclosed
      rcases hg.coherent.at_enter.mp hm with hm | ⟨_, _, rfl⟩
      · exact hg.others hm hclosed
      · exact Or.inl rfl
  · exact hg.peer act

/-- **In every run one call closes the connection.** -/
theorem guarded_run (id : ConnectionId) (config : Config) (socket : Socket) (events : List Event) :
    Guarded ((History.start (ofSocket id config socket)).run events) := by
  refine History.run_of_move (Q := fun _ => True) (fun hg hat hmove => hg.move hat hmove)
    (fun hg _ hevent => hg.other hevent) ?_ (fun _ _ => trivial)
  -- at the start there are no calls
  constructor
  case coherent => exact coherent_ofSocket id config socket
  case clear => exact fun _ => rfl
  case closer => intro n hn; cases hn
  case released => intro n outcome hn; cases hn
  case others => intro n stage hat; cases hat

end runs

/-! ## Single steps -/

section steps

variable {c : Connection} {n : Nat} {call : Call} {stage : Call.Stage}

theorem outcome?_of_at {outcome : Call.Outcome} (hat : c.At n call (.finished outcome)) :
    c.outcome? n = some outcome := by
  unfold outcome?
  rw [show c.call? n = _ from hat]
  rfl

/-- A call that ends has its outcome, and leaves the socket alone. -/
theorem conclude_eq (hat : c.At n call stage) (outcome : Call.Outcome) :
    (c.conclude n outcome).outcome? n = some outcome ∧ Untouched c (c.conclude n outcome) := by
  exact ⟨outcome?_of_at (at_conclude hat outcome), ⟨rfl, rfl, rfl⟩⟩

/-- **A read or a write that comes behind the flag is turned away.** -/
theorem step_refused (hat : c.At n call .begun) (hcall : call ≠ .close) (hclosed : c.closed = true) (now : Nat) :
    c.step now n = c.fail n .connectionClosed := by
  rw [step_eq_advance hat]
  cases call with
  | close => exact absurd rfl hcall
  | read => exact if_pos hclosed
  | write text => exact if_pos hclosed

/-- **A read or a write that waits is woken by the signal**, whatever else there may be for it. -/
theorem step_woken (hat : c.At n call stage) (hcall : call ≠ .close) (hlistens : stage.listens = true)
    (hsignal : c.signal = true) (now : Nat) : c.step now n = c.fail n .connectionClosed := by
  rw [step_eq_advance hat]
  cases stage with
  | waiting deadline =>
    cases call with
    | close => exact absurd rfl hcall
    | read => exact if_pos hsignal
    | write text => exact if_pos hsignal
  | flushing deadline => exact if_pos hsignal
  | _ => cases hlistens

/-- A call that has tested the flag begins to listen, and touches nothing. -/
theorem step_late {deadline : Nat} (hat : c.At n call (.tested deadline)) (now : Nat) :
    (c.step now n).At n call (.waiting deadline) ∧ Untouched c (c.step now n) ∧
      (c.step now n).signal = c.signal := by
  rw [step_eq_advance hat]
  exact ⟨at_setStage hat _, ⟨rfl, rfl, rfl⟩, rfl⟩

/-- A call that closes and comes behind the flag is over at once. -/
theorem step_passed (hat : c.At n .close .begun) (hclosed : c.closed = true) (now : Nat) :
    c.step now n = c.conclude n .done := by
  rw [step_eq_advance hat]
  exact if_pos hclosed

/-- A call that closes and comes before the flag only sets it. -/
theorem step_flagged (hat : c.At n .close .begun) (hclear : c.closed = false) (now : Nat) :
    c.step now n = ({ c with closed := true }.setStage n .flagged) := by
  rw [step_eq_advance hat]
  exact if_neg (by simp [hclear])

theorem step_over {outcome : Call.Outcome} (hat : c.At n call (.finished outcome)) (now : Nat) : c.step now n = c := by
  rw [step_eq_advance hat]
  cases call <;> rfl

/-- Who is not served waits for somebody else. -/
theorem Queue.head?_of_not_serves {q : Queue} (h : (q.join n).serves n = false) : ∃ m, q.head? = some m ∧ m ≠ n := by
  cases hhead : q.head? with
  | none =>
    obtain rfl := List.head?_eq_none_iff.mp hhead
    simp [Queue.join, Queue.serves] at h
  | some m =>
    refine ⟨m, rfl, ?_⟩
    rintro rfl
    rw [Queue.serves_iff.mpr (Queue.head?_join hhead)] at h
    cases h

theorem listens_of_wants {half : Half} (hcall : call ≠ .close) (hwants : wants half call stage = true) :
    stage.listens = true := by
  cases half <;> cases call <;> cases stage <;> first | rfl | exact absurd rfl hcall | cases hwants

/-- **No step opens what is closed.** -/
theorem step_within (hc : Coherent c) (now n : Nat) : c.gates.Within (c.step now n).gates := by
  cases hcall : c.call? n with
  | none =>
    rw [step_eq_of_none hcall]
    exact Gates.Within.refl _
  | some o =>
    obtain ⟨number, call, stage⟩ := o
    obtain rfl : number = n := number_of_call? hcall
    rw [step_eq_advance hcall]
    rcases c.advance_moves now number hcall with hmove | ⟨mid, deadline, hmid, hat, _, hmove⟩
    · exact hmove.gates_within (hc.suits hcall)
    · obtain ⟨stage', hs⟩ := hc.shape hcall hmid
      exact (hmid.gates_within (hc.suits hcall)).trans
        (hmove.gates_within ((hc.of_shape hcall hs).suits hat))

/-- **Only the first step of a call that closes sets the flag.** -/
theorem step_sets (hc : Coherent c) {now : Nat} (hclear : c.closed = false)
    (hset : (c.step now n).closed = true) : c.At n .close .begun := by
  cases hcall : c.call? n with
  | none =>
    rw [step_eq_of_none hcall, hclear] at hset
    cases hset
  | some o =>
    obtain ⟨number, call, stage⟩ := o
    obtain rfl : number = n := number_of_call? hcall
    rw [step_eq_advance hcall] at hset
    rcases c.advance_moves now number hcall with hmove | ⟨mid, deadline, hmid, hat, hmidclear, hmove⟩
    · obtain ⟨rfl, rfl⟩ := hmove.sets (hc.suits hcall) hclear hset
      exact hcall
    · obtain ⟨stage', hs⟩ := hc.shape hcall hmid
      obtain ⟨_, hbegun⟩ := hmove.sets ((hc.of_shape hcall hs).suits hat) (hmidclear.trans hclear) hset
      cases hbegun

end steps

/-! ## What closing promises -/

/-- **What closing promises**, at any point of a run. -/
structure ClosesSafely (h : History) : Prop where
  /-- The signal is set only behind the flag. -/
  signal_flag : h.connection.signal = true → h.connection.closed = true
  /-- The writing half is taken away only behind the signal. -/
  writer_signal : h.connection.writer = none → h.connection.signal = true
  /-- The reading half is taken away only behind the writing half. -/
  reader_writer : h.connection.reader = false → h.connection.writer = none
  /-- Nothing of this is ever undone. -/
  lasting : ∀ event, h.connection.gates.Within (h.after event).connection.gates
  /-- The flag is set by a call that closes, with its first step, and by nothing else. -/
  set : ∀ event, h.connection.closed = false → (h.after event).connection.closed = true →
    ∃ now n, event = .step now n ∧ h.connection.At n .close .begun
  /-- Any call that closes, other than the one that has set the flag, touches nothing. -/
  aside : ∀ n stage, h.connection.At n .close stage → h.closer ≠ some n →
    ∀ now, Untouched h.connection (h.connection.step now n)
  /-- It is over at once. -/
  passed : ∀ n stage, h.connection.At n .close stage → h.closer ≠ some n → h.connection.closed = true →
    ∀ now, (h.connection.step now n).outcome? n = some .done
  /-- A read or a write that comes behind the flag finds the connection closed, and touches nothing. -/
  refused : ∀ n call, h.connection.At n call .begun → call ≠ .close → h.connection.closed = true →
    ∀ now, (h.connection.step now n).outcome? n = some (.failed .connectionClosed) ∧
      Untouched h.connection (h.connection.step now n)
  /-- A read or a write that waits finds the connection closed with its next step behind the signal, whatever the
      socket and the clock have for it. -/
  woken : ∀ n call stage, h.connection.At n call stage → call ≠ .close → stage.listens = true →
    h.connection.signal = true →
    ∀ now, (h.connection.step now n).outcome? n = some (.failed .connectionClosed) ∧
      Untouched h.connection (h.connection.step now n)
  /-- So does one that has found the flag clear but listens only behind the signal. -/
  late : ∀ n call deadline, h.connection.At n call (.tested deadline) → call ≠ .close →
    h.connection.signal = true →
    ∀ now later, ((h.connection.step now n).step later n).outcome? n = some (.failed .connectionClosed) ∧
      Untouched h.connection ((h.connection.step now n).step later n)
  /-- The call that has set the flag comes to its end. Each step of it leads on, unless it sends its close frame
      before its deadline, or the half that it wants is held by a call that listens, which the signal ends. -/
  onward : ∀ n stage, h.closer = some n → h.connection.At n .close stage → stage ≠ .finished .done → ∀ now,
    (∃ stage', (h.connection.step now n).At n .close stage' ∧ stage'.distance < stage.distance) ∨
      (∃ slot deadline, stage = .closing slot deadline ∧ now < deadline) ∨
      h.connection.signal = true ∧ ∃ half m call stage', (h.connection.queue half).head? = some m ∧
        call ≠ .close ∧ h.connection.At m call stage' ∧ stage'.listens = true
  /-- At its end both halves are gone, and the stream has been left. -/
  left : ∀ n outcome, h.closer = some n → h.connection.At n .close (.finished outcome) →
    h.connection.writer = none ∧ h.connection.reader = false ∧ h.connection.socket.wire.released = true

/-- The flag comes before the signal, that before the writing half goes, and that before the reading half goes. -/
theorem gates_ordered (stage : Call.Stage) : (stage.gates.signal = true → stage.gates.flag = true) ∧
    (stage.gates.writing = true → stage.gates.signal = true) ∧
    (stage.gates.reading = true → stage.gates.writing = true) := by
  cases stage <;> simp [Call.Stage.gates]

theorem Guarded.ordered {h : History} (hg : Guarded h) :
    (h.connection.signal = true → h.connection.closed = true) ∧
      (h.connection.writer.isNone = true → h.connection.signal = true) ∧
      ((!h.connection.reader) = true → h.connection.writer.isNone = true) := by
  show (h.connection.gates.signal = true → h.connection.gates.flag = true) ∧
    (h.connection.gates.writing = true → h.connection.gates.signal = true) ∧
    (h.connection.gates.reading = true → h.connection.gates.writing = true)
  cases hcloser : h.closer with
  | none =>
    rw [hg.clear hcloser]
    simp
  | some n =>
    obtain ⟨stage, _, _, hgates⟩ := hg.closer n hcloser
    rw [hgates]
    exact gates_ordered stage

theorem Guarded.onward {h : History} (hg : Guarded h) {n : Nat} {stage : Call.Stage} (hcloser : h.closer = some n)
    (hat : h.connection.At n .close stage) (hgoes : stage ≠ .finished .done) (now : Nat) :
    (∃ stage', (h.connection.step now n).At n .close stage' ∧ stage'.distance < stage.distance) ∨
      (∃ slot deadline, stage = .closing slot deadline ∧ now < deadline) ∨
      h.connection.signal = true ∧ ∃ half m call stage', (h.connection.queue half).head? = some m ∧
        call ≠ .close ∧ h.connection.At m call stage' ∧ stage'.listens = true := by
  obtain ⟨stage', hat', hfar, hgates⟩ := hg.closer n hcloser
  obtain ⟨_, rfl⟩ := hat.unique hat'
  have hcloses := hfar.resolve_right hgoes
  rw [step_eq_advance hat]
  rcases h.connection.advance_moves now n hat with hmove | ⟨mid, deadline, hmid, hat'', _⟩
  · obtain ⟨next, hnext, _, _, hleads | ⟨half, hwants, hqueue⟩ | hearly, _⟩ :=
      hmove.gates_of_closes hat hcloses hgates
    · exact Or.inl ⟨next, hnext, hleads⟩
    · refine Or.inr (Or.inr ⟨?_, ?_⟩)
      · have hsignal := congrArg Gates.signal hgates
        cases stage' with
        | flagged => cases half <;> cases hwants
        | _ => first | exact hsignal | cases hcloses
      · obtain ⟨m, hhead, hne⟩ := Queue.head?_of_not_serves hqueue
        obtain ⟨call', stage'', hm, hwants'⟩ := hg.coherent.queued (List.mem_of_head? hhead)
        -- only one call closes, so the one in front is a read or a write
        have hcall : call' ≠ .close := by
          rintro rfl
          rcases hg.others hm (by rw [hcloser]; exact fun he => hne (Option.some.inj he).symm) with rfl | rfl
          · cases half <;> cases hwants'
          · cases half <;> cases hwants'
        exact ⟨half, m, call', stage'', hhead, hcall, hm, listens_of_wants hcall hwants'⟩
    · exact Or.inr (Or.inl hearly)
  · obtain ⟨stage', hs⟩ := hg.coherent.shape hat hmid
    exact False.elim ((hg.coherent.of_shape hat hs).suits hat'')

/-- **Closing is safe under every schedule.** -/
theorem closes_safely (id : ConnectionId) (config : Config) (socket : Socket) (events : List Event) :
    ClosesSafely ((History.start (ofSocket id config socket)).run events) := by
  have hg := guarded_run id config socket events
  revert hg
  generalize (History.start (ofSocket id config socket)).run events = h
  intro hg
  obtain ⟨hsignal, hwriter, hreader⟩ := hg.ordered
  constructor
  case signal_flag => exact hsignal
  case writer_signal =>
    intro hnone
    exact hwriter (Option.isNone_iff_eq_none.mpr hnone)
  case reader_writer =>
    intro hgone
    exact Option.isNone_iff_eq_none.mp (hreader (by rw [hgone]; rfl))
  case lasting =>
    intro event
    cases event with
    | step now n => exact step_within hg.coherent now n
    | enter call => exact Gates.Within.refl _
    | peer act => exact Gates.Within.refl _
  case set =>
    intro event hclear hset
    cases event with
    | step now n => exact ⟨now, n, rfl, step_sets hg.coherent hclear hset⟩
    | _ =>
      have hset : h.connection.closed = true := hset
      rw [hclear] at hset
      cases hset
  case aside =>
    -- another call that closes sets the flag, or finds it set and is over
    intro n stage hat hother now
    rcases hg.others hat hother with rfl | rfl
    · cases hclosed : h.connection.closed with
      | true =>
        rw [step_passed hat hclosed]
        exact (conclude_eq hat _).2
      | false =>
        rw [step_flagged hat hclosed]
        exact ⟨rfl, rfl, rfl⟩
    · rw [step_over hat]
      exact ⟨rfl, rfl, rfl⟩
  case passed =>
    intro n stage hat hother hclosed now
    rcases hg.others hat hother with rfl | rfl
    · rw [step_passed hat hclosed]
      exact (conclude_eq hat _).1
    · rw [step_over hat]
      exact outcome?_of_at hat
  case refused =>
    intro n call hat hcall hclosed now
    rw [step_refused hat hcall hclosed]
    exact conclude_eq hat _
  case woken =>
    intro n call stage hat hcall hlistens hsignal now
    rw [step_woken hat hcall hlistens hsignal]
    exact conclude_eq hat _
  case late =>
    intro n call deadline hat hcall hsignal now later
    obtain ⟨hat', huntouched, hsame⟩ := step_late hat now
    rw [step_woken hat' hcall rfl (hsame.trans hsignal)]
    obtain ⟨houtcome, hstays⟩ := conclude_eq hat' (.failed .connectionClosed)
    exact ⟨houtcome, ⟨hstays.socket.trans huntouched.socket, hstays.writer.trans huntouched.writer,
      hstays.reader.trans huntouched.reader⟩⟩
  case onward =>
    intro n stage hcloser hat hgoes now
    exact hg.onward hcloser hat hgoes now
  case left =>
    intro n outcome hcloser hat
    obtain ⟨stage, hat', _, hgates⟩ := hg.closer n hcloser
    obtain ⟨_, rfl⟩ := hat.unique hat'
    have hwriting : h.connection.writer.isNone = true := congrArg Gates.writing hgates
    have hreading : (!h.connection.reader) = true := congrArg Gates.reading hgates
    exact ⟨Option.isNone_iff_eq_none.mp hwriting, by simpa using hreading, hg.released n outcome hcloser hat⟩

end Connection

end TextSocket
