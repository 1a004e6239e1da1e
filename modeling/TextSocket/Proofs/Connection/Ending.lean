import TextSocket.Proofs.Connection.Listening
import TextSocket.Proofs.Socket.Ending

/-!
# `Proofs.Connection.Ending` — reading comes to its end once

A read may fail in two ways. It may be given up, or get a message that is no text: then the next read goes on. Or it
finds that the connection is closed, that a frame cannot be decoded, or that the socket has failed: then reading is over
for good (`Call.Outcome.isFinal`). What tells the two apart is the state that the read leaves behind. **A read that fails
for good leaves a mute socket, or the connection is being closed** (`Settles.silent`). If the socket has failed, the
reading half has noted it (`Settles.failed`), and finds the end with every read from then on.

None of this sets the flag of the connection: only a call that closes does.

## Contents

* `Call.Outcome.isData`, `isFinal`, `isFailure` — results of reads;
* `Tells`, `nextText_tells`, `nextText_mute` — what the socket says, and how it is left;
* `Reading`, `Move.reading`, `Reading.ends` — what a move does to reading;
* `Still` — what other events leave alone;
* `Settles`, `settles_run` — the invariant.
-/

namespace TextSocket

namespace Call.Outcome

/-- Whether a read has got a message of data: a text, or one that it cannot report as a text. -/
def isData : Call.Outcome → Bool
  | .text _ | .failed .emptyMessage | .failed .binaryMessage => true
  | _ => false

/-- Whether a read has found that reading is over. -/
def isFinal : Call.Outcome → Bool
  | .failed .connectionClosed | .failed .badBuffer | .failed (.socket _) => true
  | _ => false

/-- Whether a read has met a failure of the socket. -/
def isFailure : Call.Outcome → Bool
  | .failed .badBuffer | .failed (.socket _) => true
  | _ => false

theorem isFinal_of_isFailure {outcome : Call.Outcome} (h : outcome.isFailure = true) : outcome.isFinal = true := by
  unfold isFailure at h
  split at h
  · rfl
  · rfl
  · cases h

theorem isData_of_isFinal {outcome : Call.Outcome} (h : outcome.isFinal = true) : outcome.isData = false := by
  unfold isFinal at h
  split at h
  · rfl
  · rfl
  · rfl
  · cases h

end Call.Outcome

namespace Connection

open Net (Attempt)
open Socket (Content Mute Lasts Onward)

/-! ## What the socket says -/

/-- Every failure of the socket ends reading. -/
theorem isFinal_readFailure (cause : Socket.Error) :
    (Call.Outcome.failed (readFailure cause)).isFinal = true := by
  unfold readFailure
  split <;> rfl

/-- A read that has been given up, or has got a message of data, has not found that reading is over. -/
theorem isFinal_of_isTimeout {outcome : Call.Outcome} (h : isTimeout outcome = true) :
    outcome.isFinal = false ∧ outcome.isData = false := by
  unfold isTimeout at h
  split at h
  · exact ⟨rfl, rfl⟩
  · cases h

/-- **What a socket says to a reader, and how it is left.** -/
inductive Tells (s : Socket) : Attempt Error String × Socket → Prop where
  /-- It has nothing to say yet. -/
  | waits {t : Socket} (hended : t.ended = s.ended) : Tells s (.blocked, t)
  /-- It gives a message of data. -/
  | message {t : Socket} (content : Content) : Tells s (.ofExcept (heard content), t)
  /-- It says that reading is over. -/
  | final {t : Socket} {cause : Error} (hfinal : (Call.Outcome.failed cause).isFinal = true) (hmute : Mute t)
      (hended : cause ≠ .connectionClosed → t.ended = true) : Tells s (.error cause, t)

/-- **Reading is over only where the socket is mute.** The induction is on the messages that may be taken. -/
theorem nextTextWith_tells (fuel : Nat) (s : Socket) : Tells s (nextTextWith fuel s) := by
  induction fuel generalizing s with
  | zero => exact .waits rfl
  | succ fuel ih =>
    have hclose := s.next_close
    have hgoing := s.next_going
    have hover := s.next_over
    rw [nextTextWith]
    rcases hresult : s.next with ⟨(_ | message) | cause | _, t⟩
    all_goals
      rw [hresult] at hclose hgoing hover
      simp only
    · exact .final rfl (Or.inl (hover (Or.inl rfl))) fun hno => absurd rfl hno
    · cases message with
      | text words => exact .message (.text words)
      | binary bytes => exact .message (.binary bytes)
      | close reason => exact .final rfl (Or.inr (hclose reason rfl)) fun hno => absurd rfl hno
      | ping payload | pong payload =>
        have hsame := (hgoing (Or.inr ⟨_, rfl⟩)).ended
        have htells := ih t
        simp only [readMessage?]
        generalize nextTextWith fuel t = result at htells
        cases htells with
        | waits hended => exact .waits (hended.trans hsame)
        | message content => exact .message content
        | final hfinal hmute hended => exact .final hfinal hmute hended
    · have hended := hover (Or.inr ⟨cause, rfl⟩)
      exact .final (isFinal_readFailure cause) (Or.inl hended) fun _ => hended
    · exact .waits (hgoing (Or.inl rfl)).ended

theorem nextText_tells (s : Socket) : Tells s (nextText s) := nextTextWith_tells _ s

/-- **A mute socket gives a reader no message.** -/
theorem nextText_mute {s : Socket} (h : Mute s) {outcome : Call.Outcome} :
    said (nextText s).1 = some outcome → outcome.isFinal = true := by
  have hnone := Socket.next_mute h
  unfold nextText
  rw [nextTextWith]
  rcases hresult : s.next with ⟨(_ | message) | cause | _, t⟩
  all_goals rw [hresult] at hnone
  · rintro ⟨⟩
    rfl
  · exact absurd rfl (hnone message)
  · rintro ⟨⟩
    exact isFinal_readFailure cause
  · exact fun h => by cases h

/-- Who has to wait has noted no end. -/
theorem nextText_waits {s : Socket} (hblocked : (nextText s).1 = .blocked) : (nextText s).2.ended = s.ended := by
  have htells := nextText_tells s
  generalize nextText s = result at htells hblocked
  cases htells with
  | waits hended => exact hended
  | message content =>
    have hsaid := said_ofExcept (heard content)
    rw [show Attempt.ofExcept (heard content) = .blocked from hblocked] at hsaid
    cases hsaid
  | final _ _ _ => cases hblocked

/-- No message of data says that reading is over. -/
theorem isFinal_report (content : Content) : (report content).isFinal = false := by
  cases content with
  | binary bytes => rfl
  | text words =>
    unfold report heard
    simp only
    split
    · rfl
    · rfl

/-- **A socket that says that reading is over is mute.** Unless it is closed, the reading half has noted its end. -/
theorem nextText_final {s : Socket} {outcome : Call.Outcome} (hsaid : said (nextText s).1 = some outcome)
    (hfinal : outcome.isFinal = true) :
    Mute (nextText s).2 ∧ (outcome.isFailure = true → (nextText s).2.ended = true) := by
  have htells := nextText_tells s
  generalize nextText s = result at htells hsaid
  cases htells with
  | waits hended => cases hsaid
  | message content =>
    rw [said_ofExcept] at hsaid
    cases hsaid
    have hno := isFinal_report content
    unfold report at hno
    rw [hno] at hfinal
    cases hfinal
  | final _ hmute hended =>
    cases hsaid
    refine ⟨hmute, fun hfailure => hended ?_⟩
    rintro rfl
    cases hfailure

theorem nextText_lasts (s : Socket) : Lasts s (nextText s).2 :=
  nextTextWith_rel Lasts.refl Lasts.trans Socket.next_lasts _ s

/-! ## One move -/

section moves

variable {c c' : Connection} {now n : Nat} {call : Call} {stage stage' : Call.Stage}

/-- **What is over for readers stays over.** -/
theorem Move.lasts (hmove : Move c now n call stage c') : Lasts c.socket c'.socket :=
  hmove.socket_rel Lasts.refl nextText_lasts (fun slot s text => (slot.feed_onward s text).lasts)
    (fun slot s => (slot.flush_onward s).lasts) (fun slot s => (slot.close_onward s).lasts)
    fun _ => ⟨fun h => h, fun h => h⟩

/-- Whether a read is turned away or woken: the flag or the signal is set, or the reading half has been taken away. -/
def Closing (c : Connection) : Prop := c.closed = true ∨ c.signal = true ∨ c.reader = false

/-- **What a move does to reading**, when a call takes it that is not over. -/
inductive Reading (c : Connection) (n : Nat) (c' : Connection) : Prop where
  /-- It leaves reading alone. A read that ends so is turned away, or is given up before its turn. -/
  | aside (hsocket : Onward c.socket c'.socket)
      (hends : ∀ outcome, c'.At n .read (.finished outcome) →
        outcome = .failed .connectionClosed ∧ Closing c ∨ isTimeout outcome = true ∧ c.grants .reading n = false)
      (hover : c.grants .reading n = true → ∃ outcome, c'.At n .read (.finished outcome))
  /-- It is the turn of a read, which has to wait. A read that ends so is given up. -/
  | waits (hgrants : c.grants .reading n = true) (hnext : nextText c.socket = (.blocked, c'.socket))
      (hends : ∀ outcome, c'.At n .read (.finished outcome) → isTimeout outcome = true)
  /-- It is the turn of a read, which ends with what the socket says. -/
  | told {outcome : Call.Outcome} (hgrants : c.grants .reading n = true) (hsocket : c'.socket = (nextText c.socket).2)
      (hsaid : said (nextText c.socket).1 = some outcome) (hat : c'.At n .read (.finished outcome))

/-- What is no read ends no read. -/
theorem reading_other (hat : c.At n call stage) (hat' : c'.At n call stage') (hcall : call ≠ .read)
    (hsocket : Onward c.socket c'.socket) : Reading c n c' := by
  refine .aside hsocket (fun outcome hover => ?_) fun hgrants => ?_
  · exact absurd (hover.unique hat').1 hcall
  · exact absurd (eq_read_of_grants hat hgrants) hcall

/-- A read that only comes a stage further leaves reading alone. -/
theorem reading_early (hat : c.At n call stage) (hstage : ∀ deadline, stage ≠ .waiting deadline)
    (hsocket : c'.socket = c.socket) (hat' : c'.At n call stage') (hgoes : stage'.isOver = false) :
    Reading c n c' := by
  refine .aside (hsocket ▸ Onward.refl _) (fun outcome hover => ?_) fun hgrants => ?_
  · obtain ⟨_, rfl⟩ := hat'.unique hover
    cases hgoes
  · rw [not_grants_of_not_waiting hat hstage] at hgrants
    cases hgrants

/-- A call that finds the connection closed leaves reading alone. -/
theorem reading_turnedAway (hat' : c'.At n call (.finished (.failed .connectionClosed))) (hclosing : Closing c)
    (hsocket : c'.socket = c.socket) (hread : c.grants .reading n = true → call = .read) : Reading c n c' := by
  refine .aside (hsocket ▸ Onward.refl _) (fun outcome hover => ?_) fun hgrants => ?_
  · obtain ⟨_, hsame⟩ := hat'.unique hover
    injection hsame with hsame
    exact Or.inl ⟨hsame, hclosing⟩
  · obtain rfl := hread hgrants
    exact ⟨_, hat'⟩

/-- **Every move leaves reading alone, or is the turn of a read.** -/
theorem Move.reading (hmove : Move c now n call stage c') (hc : Coherent c) (hat : c.At n call stage)
    (hgoes : stage.isOver = false) : Reading c n c' := by
  have hsuits := hc.suits hat
  obtain ⟨stage', hs⟩ := hc.shape hat hmove
  have other := reading_other hat hs.at_self
  have closing : stage.closes = true → call ≠ .read := fun hcloses hread => by
    rw [hread] at hsuits
    exact absurd (hsuits.eq_close hcloses) (by simp)
  have flushing : ∀ {deadline}, stage = .flushing deadline → call ≠ .read := by
    rintro deadline rfl rfl
    exact hsuits
  have reads := eq_read_of_grants hat
  cases hmove with
  | refused _ hclosed => exact reading_turnedAway (at_conclude hat _) (Or.inl hclosed) rfl reads
  | woken _ hsignal => exact reading_turnedAway (at_conclude hat _) (Or.inr (Or.inl hsignal)) rfl reads
  | bereftRead _ _ _ hreader =>
    exact reading_turnedAway (at_conclude (c := { c with readers := c.readers.join n }) hat _)
      (Or.inr (Or.inr hreader)) rfl reads
  | tested deadline _ _ => exact reading_early hat (by simp) rfl (at_setStage hat (.tested deadline)) rfl
  | subscribed deadline => exact reading_early hat (by simp) rfl (at_setStage hat (.waiting deadline)) rfl
  | passed _ => exact other (by simp) (Onward.refl _)
  | flagged _ => exact other (by simp) (Onward.refl _)
  | astray _ => exact other (by simp) (Onward.refl _)
  | idle hover =>
    rw [hgoes] at hover
    cases hover
  | queuedRead deadline _ hqueue =>
    have hno : c.grants .reading n = false := not_grants_of_not_serves hat hqueue
    refine .aside ?_ (fun outcome hover => Or.inr ⟨?_, hno⟩) fun hgrants => ?_
    · rw [socket_await]
      exact Onward.refl _
    · exact isTimeout_of_await (c := { c with readers := c.readers.join n }) hat rfl rfl hover
    · rw [hno] at hgrants
      cases hgrants
  | read deadline hsignal hqueue _ hnext =>
    refine .told ((grants_iff hat).mpr ⟨⟨deadline, rfl⟩, rfl, hsignal, hqueue⟩) (by rw [hnext]; rfl) ?_
      (at_conclude (c := { c with readers := c.readers.join n, socket := _ }) hat _)
    rw [hnext]
    rfl
  | readFailed deadline hsignal hqueue _ hnext =>
    refine .told ((grants_iff hat).mpr ⟨⟨deadline, rfl⟩, rfl, hsignal, hqueue⟩) (by rw [hnext]; rfl) ?_
      (at_conclude (c := { c with readers := c.readers.join n, socket := _ }) hat _)
    rw [hnext]
    rfl
  | @readBlocked deadline socket hsignal hqueue _ hnext =>
    refine .waits ((grants_iff hat).mpr ⟨⟨deadline, rfl⟩, rfl, hsignal, hqueue⟩) ?_ fun outcome hover => ?_
    · rw [socket_await]
      exact hnext
    · exact isTimeout_of_await (c := { c with readers := c.readers.join n, socket }) hat rfl rfl hover
  | queuedWrite deadline _ _ =>
    refine other (by simp) ?_
    rw [socket_await]
    exact Onward.refl _
  | bereftWrite _ _ _ _ => exact other (by simp) (Onward.refl _)
  | @fed text _ slot _ _ _ _ _ hfeed | @feedFailed text _ slot _ _ _ _ _ _ hfeed =>
    have honward := Socket.Slot.feed_onward slot c.socket text
    rw [hfeed] at honward
    exact other (by simp) honward
  | @feedBlocked text deadline slot slot' socket _ _ _ hfeed =>
    have honward := Socket.Slot.feed_onward slot c.socket text
    rw [hfeed] at honward
    refine other (by simp) ?_
    rw [socket_await]
    exact honward
  | bereftFlush _ _ _ => exact other (flushing rfl) (Onward.refl _)
  | @flushed _ _ slot _ _ _ _ hflush | @flushFailed _ _ slot _ _ _ _ _ hflush =>
    have honward := Socket.Slot.flush_onward slot c.socket
    rw [hflush] at honward
    exact other (flushing rfl) honward
  | @flushBlocked _ deadline slot slot' socket _ _ hflush =>
    have honward := Socket.Slot.flush_onward slot c.socket
    rw [hflush] at honward
    refine other (flushing rfl) ?_
    rw [socket_await]
    exact honward
  | signalled | queuedClose _ | took _ _ _ | missed _ _ | queuedLeave _ => exact other (closing rfl) (Onward.refl _)
  | @closed _ _ slot _ _ _ hclose _ | @closeBlocked _ _ slot _ _ hclose _ =>
    have honward := Socket.Slot.close_onward slot c.socket
    rw [hclose] at honward
    exact other (closing rfl) honward
  | left _ => exact other (closing rfl) (.of_same rfl rfl)

/-- **How a read comes to its end**: it is turned away, or it is given up, or it reports what the socket says. If it is
    given up in its turn, the socket has nothing to say. -/
theorem Reading.ends (hreading : Reading c n c') {outcome : Call.Outcome} (hat' : c'.At n .read (.finished outcome)) :
    (outcome = .failed .connectionClosed ∧ Closing c) ∨
    (isTimeout outcome = true ∧ (c.grants .reading n = true → nextText c.socket = (.blocked, c'.socket))) ∨
    (c'.socket = (nextText c.socket).2 ∧ said (nextText c.socket).1 = some outcome) := by
  cases hreading with
  | aside _ hends _ =>
    rcases hends outcome hat' with hclosing | ⟨htimeout, hno⟩
    · exact Or.inl hclosing
    · refine Or.inr (Or.inl ⟨htimeout, fun hgrants => ?_⟩)
      rw [hno] at hgrants
      cases hgrants
  | waits _ hnext hends => exact Or.inr (Or.inl ⟨hends outcome hat', fun _ => hnext⟩)
  | told _ hsocket hsaid htold =>
    obtain ⟨_, hsame⟩ := htold.unique hat'
    injection hsame with hsame
    exact Or.inr (Or.inr ⟨hsocket, hsame ▸ hsaid⟩)

/-- A read that fails for good is turned away, or leaves a mute socket. -/
theorem Reading.final (hreading : Reading c n c') {outcome : Call.Outcome} (hat' : c'.At n .read (.finished outcome))
    (hfinal : outcome.isFinal = true) :
    (outcome = .failed .connectionClosed ∧ Closing c) ∨
    (Mute c'.socket ∧ (outcome.isFailure = true → c'.socket.ended = true)) := by
  rcases hreading.ends hat' with hclosing | ⟨htimeout, _⟩ | ⟨hsocket, hsaid⟩
  · exact Or.inl hclosing
  · rw [(isFinal_of_isTimeout htimeout).1] at hfinal
    cases hfinal
  · rw [hsocket]
    exact Or.inr (nextText_final hsaid hfinal)

/-- A call that is over changes nothing. -/
theorem Move.eq_of_isOver (hmove : Move c now n call stage c') (hover : stage.isOver = true) : c' = c := by
  cases hmove with
  | idle _ => rfl
  | woken hlistens _ =>
    rw [Call.Stage.isOver_of_listens hlistens] at hover
    cases hover
  | _ => cases hover

/-- A call that is over behind a move has been over before, or it has come to its end with the move. -/
theorem Coherent.over_before (hc : Coherent c) (hat : c.At n call stage) (hmove : Move c now n call stage c') {m : Nat}
    {call' : Call} {outcome : Call.Outcome} (hat' : c'.At m call' (.finished outcome)) :
    c.At m call' (.finished outcome) ∨ m = n ∧ stage.isOver = false := by
  obtain ⟨stage', hs⟩ := hc.shape hat hmove
  by_cases hne : m = n
  · subst hne
    cases hover : stage.isOver with
    | false => exact Or.inr ⟨rfl, rfl⟩
    | true =>
      rw [hmove.eq_of_isOver hover] at hat'
      exact Or.inl hat'
  · exact Or.inl ((hs.at_iff hne).mp hat')

/-- A call that is over stays so. -/
theorem Coherent.over_move (hc : Coherent c) (hat : c.At n call stage) (hmove : Move c now n call stage c') {m : Nat}
    {call' : Call} {outcome : Call.Outcome} (hover : c.At m call' (.finished outcome)) :
    c'.At m call' (.finished outcome) := by
  obtain ⟨stage', hs⟩ := hc.shape hat hmove
  -- it may be the call that takes the step, and then the step does nothing
  by_cases hne : m = n
  · subst hne
    obtain ⟨rfl, rfl⟩ := hat.unique hover
    exact hs.finished rfl ▸ hs.at_self
  · exact (hs.at_iff hne).mpr hover

end moves

/-! ## The invariant -/

/-- **A read that fails for good leaves its mark.** -/
structure Settles (h : History) : Prop where
  /-- A half is obtained by one call after another. -/
  turns : Turns h
  /-- One call closes. -/
  guarded : Guarded h
  /-- When a read has found that reading is over, the socket is mute, or the connection is being closed. -/
  silent : ∀ {n outcome}, h.connection.At n .read (.finished outcome) → outcome.isFinal = true →
    Mute h.connection.socket ∨ h.connection.closed = true
  /-- When a read has met a failure of the socket, the reading half has noted it. -/
  failed : ∀ {n outcome}, h.connection.At n .read (.finished outcome) → outcome.isFailure = true →
    h.connection.socket.ended = true
  /-- When the reading half has noted its end, no read waits for a message. -/
  idle : h.connection.socket.ended = true → ∀ n ∈ h.order .reading, ∃ call outcome,
    h.connection.At n call (.finished outcome)

section runs

variable {h : History} {c' : Connection} {now n : Nat} {call : Call} {stage : Call.Stage}

/-- The signal is set and the reading half is taken away behind the flag. -/
theorem Guarded.closed_of_closing (hg : Guarded h) (hclosing : Closing h.connection) :
    h.connection.closed = true := by
  cases hcloser : h.closer with
  | some n => exact hg.flag_of_closer hcloser
  | none =>
    -- nothing is closed
    have hgates := hg.clear hcloser
    have hsignal : h.connection.signal = false := congrArg Gates.signal hgates
    have hreader : (!h.connection.reader) = false := congrArg Gates.reading hgates
    rcases hclosing with hclosed | hset | hgone
    · exact hclosed
    · rw [hset] at hsignal
      cases hsignal
    · rw [hgone] at hreader
      cases hreader

theorem moved_of_isOver (hat : h.connection.At n call stage) (hover : stage.isOver = true) :
    h.moved n h.connection = h := by
  unfold History.moved
  rw [History.granted_of_not_waiting hat fun deadline hwaiting => by rw [hwaiting] at hover; cases hover]
  cases hclosed : h.connection.closed <;> rfl

/-- **When the reading half has noted its end behind a move, no read waits for a message.** -/
theorem Settles.idle_moved (hr : Settles h) (hat : h.connection.At n call stage) {stage' : Call.Stage}
    (hs : Shape h.connection n call stage stage' c') (hreading : Reading h.connection n c')
    (hgoes : stage.isOver = false) (hended : c'.socket.ended = true) :
    ∀ m ∈ h.granted n .reading, ∃ call outcome, c'.At m call (.finished outcome) := by
  intro m hmem
  have others : ∀ {m}, m ≠ n → (∃ call outcome, h.connection.At m call (.finished outcome)) →
      ∃ call outcome, c'.At m call (.finished outcome) := by
    rintro m hne ⟨call', outcome, hm⟩
    exact ⟨call', outcome, (hs.at_iff hne).mpr hm⟩
  cases hreading with
  | aside hsocket _ hgranted =>
    rw [hsocket.ended] at hended
    rcases mem_granted.mp hmem with hm | ⟨rfl, hgrants⟩
    · obtain ⟨call', outcome, hat'⟩ := hr.idle hended m hm
      refine others ?_ ⟨call', outcome, hat'⟩
      rintro rfl
      obtain ⟨_, rfl⟩ := hat.unique hat'
      cases hgoes
    · obtain ⟨outcome, hat'⟩ := hgranted hgrants
      exact ⟨_, outcome, hat'⟩
  | waits hgrants hnext _ =>
    -- it has noted no end, for then the read would not wait
    have hsame := nextText_waits (s := h.connection.socket) (by rw [hnext])
    rw [hnext] at hsame
    rw [hsame] at hended
    rw [nextText_ended hended] at hnext
    cases hnext
  | told hgrants _ _ htold =>
    obtain ⟨front, hfront, hn, hfinished⟩ := hr.turns.turn_of_grants hat hgrants
    rw [hfront] at hmem
    rcases List.mem_append.mp hmem with hm | hm
    · exact others (fun he => hn (he ▸ hm)) (hfinished m hm)
    · rw [List.mem_singleton.mp hm]
      exact ⟨_, _, htold⟩

theorem Settles.move (hr : Settles h) (hat : h.connection.At n call stage)
    (hmove : Move h.connection now n call stage c') : Settles (h.moved n c') := by
  cases hover : stage.isOver with
  | true =>
    rw [hmove.eq_of_isOver hover, moved_of_isOver hat hover]
    exact hr
  | false =>
    obtain ⟨stage', hs⟩ := hr.turns.coherent.shape hat hmove
    have hlasts := hmove.lasts
    have hreading := hmove.reading hr.turns.coherent hat hover
    have hclosed : h.connection.closed = true → c'.closed = true :=
      (hmove.gates_within (hr.turns.coherent.suits hat)).flag
    constructor
    case turns => exact hr.turns.move hat hmove
    case guarded => exact hr.guarded.move hat hmove
    case silent =>
      intro m outcome hat' hfinal
      by_cases hne : m = n
      · subst hne
        rcases hreading.final hat' hfinal with ⟨_, hclosing⟩ | ⟨hmute, _⟩
        · exact Or.inr (hclosed (hr.guarded.closed_of_closing hclosing))
        · exact Or.inl hmute
      · exact (hr.silent ((hs.at_iff hne).mp hat') hfinal).imp (·.lasts hlasts) hclosed
    case failed =>
      intro m outcome hat' hfailure
      by_cases hne : m = n
      · subst hne
        rcases hreading.final hat' (Call.Outcome.isFinal_of_isFailure hfailure) with ⟨rfl, _⟩ | ⟨_, hended⟩
        · cases hfailure
        · exact hended hfailure
      · exact hlasts.ended (hr.failed ((hs.at_iff hne).mp hat') hfailure)
    case idle => exact fun hended m hmem => hr.idle_moved hat hs hreading hover hended m hmem

/-- **What an event leaves alone** that is no step. -/
structure Still (h h' : History) : Prop where
  /-- Stages and queues agree. -/
  coherent : Coherent h'.connection
  /-- The socket reads as far as before. -/
  socket : Onward h.connection.socket h'.connection.socket
  /-- The flag is as it was. -/
  closed : h'.connection.closed = h.connection.closed
  /-- No half is obtained. -/
  order : h'.order = h.order
  /-- No call comes to its end. -/
  finished : ∀ {m call outcome}, h'.connection.At m call (.finished outcome) ↔ h.connection.At m call (.finished outcome)

theorem Coherent.still (hc : Coherent h.connection) {event : Event} (hevent : ∀ now n, event ≠ .step now n) :
    Still h (h.after event) := by
  rcases Event.enter_or_peer hevent with ⟨call, rfl⟩ | ⟨act, rfl⟩
  · refine ⟨hc.enter call, Onward.refl _, rfl, rfl, fun {m call' outcome} => hc.at_enter.trans ⟨?_, Or.inl⟩⟩
    rintro (hat | ⟨_, _, hbegun⟩)
    · exact hat
    · cases hbegun
  · -- the peer changes no call, and nothing of the socket but its stream
    exact ⟨hc.onWire act.apply, .of_same rfl rfl, rfl, rfl, at_congr rfl⟩

theorem Settles.other (hr : Settles h) {event : Event} (hevent : ∀ now n, event ≠ .step now n) :
    Settles (h.after event) := by
  have hstill := hr.turns.coherent.still hevent
  constructor
  case turns => exact hr.turns.other hevent
  case guarded => exact hr.guarded.other hevent
  case silent =>
    intro n outcome hat hfinal
    exact (hr.silent (hstill.finished.mp hat) hfinal).imp (·.lasts hstill.socket.lasts) hstill.closed.trans
  case failed => exact fun hat hfailure => hstill.socket.ended.trans (hr.failed (hstill.finished.mp hat) hfailure)
  case idle =>
    rw [hstill.order, hstill.socket.ended]
    intro hended m hmem
    obtain ⟨call, outcome, hat⟩ := hr.idle hended m hmem
    exact ⟨call, outcome, hstill.finished.mpr hat⟩

/-- **The invariant holds in every run.** -/
theorem settles_run (id : ConnectionId) (config : Config) {socket : Socket} (hgoing : socket.ended = false)
    (events : List Event) : Settles ((History.start (ofSocket id config socket)).run events) := by
  refine History.run_of_move (Q := fun _ => True) (fun hr hat hmove => hr.move hat hmove)
    (fun hr _ hevent => hr.other hevent) ?_ (fun _ _ => trivial)
  refine ⟨turns_run id config socket [], guarded_run id config socket [], fun hat => (by cases hat),
    fun hat => (by cases hat), fun hended => ?_⟩
  have hended : socket.ended = true := hended
  rw [hgoing] at hended
  cases hended

end runs

end Connection

end TextSocket
