import TextSocket.Proofs.Connection.Reports

/-!
# `Proofs.Connection.Receiving` — what reads report

The reads of a run act as one reader, and what they report follows a law of conservation: what has been reported,
together with what is still to come, is what the peer has sent (`Progress`). A step of a read moves at most one message
from one side to the other; a step of a write moves none.

The law ends behind the last message that the frames of the peer carry. What a read meets there (a close frame, the
end of the stream, a frame that is no frame) is no message, and everything before it has been reported by then.

## Contents

* `Progress`, `Receiving` — the law, and what a run keeps;
* `Receives`, `Refuses`, `receives_run` — what follows for the reads.
-/

namespace TextSocket

namespace Connection

open Socket (Content Inflow Keeps frameLimit)

/-! ## The law -/

/-- **What reads have reported, together with what is still to come, is what the peer has sent.** Behind the last
    message of the frames, something else has been met. -/
inductive Progress (contents : List Content) (tail future : Bytes) (h : History) : Prop where
  /-- The peer has sent what has been reported and what is still to come. -/
  | coming {front rest : List Content} {frames : List Frame} (hcontents : contents = front ++ rest)
      (hresults : results h = front.map report) (hinflow : Inflow h.connection.socket future frames rest tail)
  /-- Everything has been reported. A frame that is too long is refused, and nothing is read behind it. -/
  | beyond (hresults : contents.map report <+: results h)
      (hmet : h.connection.socket.wire.ending = .open → Frame.decode (some frameLimit) tail ≠ .unfinished)
      (hlong : h.connection.socket.wire.ending = .open → ∀ length,
        Frame.decode (some frameLimit) tail = .tooLong length →
          h.connection.socket.phase = .active ∧ h.connection.socket.ended = true ∧
            ∃ k, results h = contents.map report ++
              .failed .badBuffer :: List.replicate k (.failed .connectionClosed))

section progress

variable {h h' : History} {contents : List Content} {tail future : Bytes}

/-- Writing does not change the law. -/
theorem Progress.keeps (hp : Progress contents tail future h)
    (hkeeps : Keeps h.connection.socket h'.connection.socket) (hhealthy : h.connection.socket.wire.Healthy)
    (hresults : results h' = results h) : Progress contents tail future h' := by
  have hending := (hkeeps.healthy hhealthy).2
  cases hp with
  | coming hcontents hresults' hinflow => exact .coming hcontents (hresults.trans hresults') (hinflow.keeps hkeeps)
  | beyond hresults' hmet hlong =>
    rw [← hresults] at hresults'
    refine .beyond hresults' (hending.symm ▸ hmet) fun hopen length htail => ?_
    obtain ⟨hactive, hended, k, hk⟩ := hlong (hending ▸ hopen) length htail
    exact ⟨hkeeps.active.mpr hactive, hkeeps.ended.trans hended, k, hresults.trans hk⟩

/-- **The turn of a read keeps the law.** -/
theorem Progress.turn (hp : Progress contents tail future h) (hhealthy : h.connection.socket.wire.Healthy)
    (hsocket : h'.connection.socket = (nextText h.connection.socket).2)
    (hresults : results h' = results h ++
      ((said (nextText h.connection.socket).1).filter fun outcome => !isTimeout outcome).toList) :
    Progress contents tail future h' := by
  have hending := (nextText_steady h.connection.socket hhealthy).2
  rw [← hsocket] at hending
  cases hp with
  | @coming front rest frames hcontents hbefore hinflow =>
    have hhears := nextText_hears hinflow
    generalize nextText h.connection.socket = result at hhears hsocket hresults
    cases hhears with
    | waits hinflow' _ =>
      refine .coming hcontents ?_ (by rw [hsocket]; exact hinflow')
      rw [hresults, hbefore]
      exact List.append_nil _
    | @content t content frames' rest' hrest hinflow' =>
      have hcontents' : contents = (front ++ [content]) ++ rest' := by
        rw [hcontents, hrest, List.append_assoc]
        rfl
      refine .coming hcontents' ?_ (by rw [hsocket]; exact hinflow')
      · rw [hresults, hbefore, said_ofExcept, List.map_append]
        have hreport : (!isTimeout (report content)) = true := by rw [isTimeout_report]; rfl
        show _ ++ ((some (report content)).filter fun outcome => !isTimeout outcome).toList = _
        rw [Option.filter_some, if_pos hreport]
        rfl
    | @beyond t result hnil hmet hlong =>
      rw [hnil, List.append_nil] at hcontents
      rw [hbefore, ← hcontents] at hresults
      refine .beyond ⟨_, hresults.symm⟩ (hending.symm ▸ hmet) fun hopen length htail => ?_
      obtain ⟨hactive, hended, rfl⟩ := hlong (hending ▸ hopen) length htail
      rw [hsocket]
      exact ⟨hactive, hended, 0, hresults⟩
  | beyond hbefore hmet hlong =>
    -- behind a frame that is too long, reading has come to its end, and so does every read
    refine .beyond (hbefore.trans ⟨_, hresults.symm⟩) (hending.symm ▸ hmet) fun hopen length htail => ?_
    obtain ⟨hactive, hended, k, hk⟩ := hlong (hending ▸ hopen) length htail
    rw [nextText_ended hended] at hsocket hresults
    rw [hsocket]
    refine ⟨hactive, hended, k + 1, ?_⟩
    rw [hresults, hk, List.append_assoc, List.cons_append, List.replicate_succ']
    rfl

/-- What the peer does keeps the law. -/
theorem Progress.onWire (hp : Progress contents tail future h) {future' : Bytes} (change : Net.Wire → Net.Wire)
    (hconnection : h'.connection = h.connection.onWire change) (hresults : results h' = results h)
    (hhealthy : (change h.connection.socket.wire).Healthy)
    (hbytes : (change h.connection.socket.wire).incoming ++ future' = h.connection.socket.wire.incoming ++ future)
    (hfinal : (change h.connection.socket.wire).ending ≠ .open → future' = [])
    (hopen : (change h.connection.socket.wire).ending = .open → h.connection.socket.wire.ending = .open) :
    Progress contents tail future' h' := by
  cases hp with
  | @coming front rest frames hcontents hbefore hinflow =>
    have hinflow' : Inflow h'.connection.socket future' frames rest tail := by
      rw [hconnection]
      exact hinflow.onWire hbytes hhealthy fun hended => hfinal (by rw [hended]; simp)
    exact .coming hcontents (hresults.trans hbefore) hinflow'
  | beyond hbefore hmet hlong =>
    rw [← hresults] at hbefore hlong
    refine .beyond hbefore (fun hopen' => ?_) fun hopen' => ?_
    · rw [hconnection] at hopen'
      exact hmet (hopen hopen')
    · rw [hconnection] at hopen' ⊢
      exact hlong (hopen hopen')

/-- **The law of conservation is a law of reading.** -/
theorem progress_law (contents : List Content) (tail : Bytes) : Law False (Progress contents tail) where
  writes hp hsound hkeeps _ hresults := hp.keeps hkeeps (hsound.resolve_right And.left) hresults
  asks hp hsound _ hsocket hresults := hp.turn (hsound.resolve_right And.left) hsocket hresults
  arrives change hp hconnection hresults hsound hbytes hfinal hopen _ :=
    hp.onWire change hconnection hresults (hsound.resolve_right And.left) hbytes hfinal hopen

end progress

/-! ## Runs -/

/-- **What a run keeps** in which the peer sends a stream and nobody closes. -/
structure Receiving (frames : List Frame) (contents : List Content) (tail : Bytes) (h : History) : Prop where
  /-- A half is obtained by one call after another. -/
  turns : Turns h
  /-- Nobody closes. -/
  unclosed : Unclosed h.connection
  /-- The stream is healthy. -/
  healthy : h.connection.socket.wire.Healthy
  /-- A read that has come to its end without its half has been given up. -/
  waited : ∀ {n outcome}, h.connection.At n .read (.finished outcome) → n ∈ h.order .reading ∨ isTimeout outcome = true
  /-- The law holds, whatever is still on its way. At the end of the peer's stream, nothing is. -/
  progress : ∀ future, h.arrived ++ future = frames.flatMap Frame.encode ++ tail →
    (h.connection.socket.wire.ending = .ended → future = []) → Progress contents tail future h

section runs

variable {h : History} {frames : List Frame} {contents : List Content} {tail : Bytes}

/-- On a healthy stream, what is not open has been ended. -/
theorem ne_open_iff {wire : Net.Wire} (hhealthy : wire.Healthy) : wire.ending ≠ .open ↔ wire.ending = .ended := by
  rcases hhealthy.ending with hending | hending
  · simp [hending]
  · simp [hending]

theorem Receiving.follows (hr : Receiving frames contents tail h) :
    Follows False (frames.flatMap Frame.encode ++ tail) (Progress contents tail) h where
  turns := hr.turns
  unclosed := hr.unclosed
  sound := Or.inl hr.healthy
  law future hstream hfinal := hr.progress future hstream fun hended => hfinal ((ne_open_iff hr.healthy).mpr hended)

/-- A read that has come to its end without its half has been given up. -/
def Waited (h : History) : Prop :=
  ∀ {n outcome}, h.connection.At n .read (.finished outcome) → n ∈ h.order .reading ∨ isTimeout outcome = true

theorem Follows.receiving (hf : Follows False (frames.flatMap Frame.encode ++ tail) (Progress contents tail) h)
    (hwaited : Waited h) : Receiving frames contents tail h := by
  have hhealthy := hf.sound.resolve_right And.left
  exact ⟨hf.turns, hf.unclosed, hhealthy, hwaited,
    fun future hstream hfinal => hf.law future hstream fun hno => hfinal ((ne_open_iff hhealthy).mp hno)⟩

theorem Waited.move {c' : Connection} {now n : Nat} {call : Call} {stage : Call.Stage} (hw : Waited h) (ht : Turns h)
    (hopen : Unclosed h.connection) (hat : h.connection.At n call stage)
    (hmove : Move h.connection now n call stage c') : Waited (h.moved n c') := by
  obtain ⟨stage', hs⟩ := ht.coherent.shape hat hmove
  intro m outcome hat'
  by_cases hne : m = n
  · subst hne
    cases hmove.listening ht.coherent hat hopen with
    | aside hsocket _ hsame htimeout =>
      rcases htimeout outcome hat' with hover | htimeout
      · rw [hsame hover] at hat'
        exact (hw hat').imp_left fun hmem => mem_granted.mpr (Or.inl hmem)
      · exact Or.inr htimeout
    | turn hgrants _ _ => exact Or.inl (mem_granted.mpr (Or.inr ⟨rfl, hgrants⟩))
  · exact (hw ((hs.at_iff hne).mp hat')).imp_left fun hmem => mem_granted.mpr (Or.inl hmem)

theorem Waited.other (hw : Waited h) (ht : Turns h) {event : Event} (hevent : ∀ now n, event ≠ .step now n) :
    Waited (h.after event) := by
  intro n outcome hat
  rcases Event.enter_or_peer hevent with ⟨call, rfl⟩ | ⟨act, rfl⟩
  · rcases ht.coherent.at_enter.mp hat with hold | ⟨_, _, hbegun⟩
    · exact hw hold
    · cases hbegun
  · exact hw ((at_congr rfl).mp hat)

theorem Receiving.move {c' : Connection} {now n : Nat} {call : Call} {stage : Call.Stage}
    (hr : Receiving frames contents tail h) (hat : h.connection.At n call stage)
    (hmove : Move h.connection now n call stage c') : Receiving frames contents tail (h.moved n c') :=
  (hr.follows.move (progress_law contents tail) hat hmove).receiving
    (Waited.move hr.waited hr.turns hr.unclosed hat hmove)

theorem Receiving.other {event : Event} (hr : Receiving frames contents tail h) (hcalm : event.IsCalm)
    (hevent : ∀ now n, event ≠ .step now n) : Receiving frames contents tail (h.after event) :=
  (hr.follows.other (progress_law contents tail) hcalm.isAllowed hevent).receiving
    (Waited.other hr.waited hr.turns hevent)

theorem Receiving.run (hr : Receiving frames contents tail h) {events : List Event}
    (hcalm : ∀ event ∈ events, event.IsCalm) : Receiving frames contents tail (h.run events) :=
  History.run_of_move (fun hr hat hmove => hr.move hat hmove) (fun hr hcalm hevent => hr.other hcalm hevent) hr hcalm

/-- On a healthy stream everything is still to come. -/
theorem receiving_healthy (id : ConnectionId) (config : Config) (role : Socket.Role) {wire : Net.Wire}
    (threshold : Nat) (keys : Nat → MaskKey) (hhealthy : wire.Healthy)
    (hlegible : ∀ frame ∈ frames, Socket.Legible role frame) (hcarries : Socket.Carries none frames contents)
    (tail : Bytes) :
    Receiving frames contents tail (.start (ofSocket id config (.ofWire role wire threshold keys))) where
  turns := turns_run id config _ []
  unclosed := ⟨fun hat => (by cases hat), rfl⟩
  healthy := hhealthy
  waited hat := by cases hat
  progress future hstream hfinal := by
    have hinflow : Inflow (.ofWire role wire threshold keys) future frames contents tail :=
      ⟨⟨hstream, hlegible, ⟨none, trivial, hcarries⟩, rfl, rfl, hfinal⟩, hhealthy⟩
    exact .coming (List.nil_append contents).symm rfl hinflow

/-- At the start everything is still to come. -/
theorem receiving_start (id : ConnectionId) (config : Config) (role : Socket.Role) {wire : Net.Wire}
    (threshold : Nat) (keys : Nat → MaskKey) (hopen : wire.ending = .open) (hshut : wire.shut = false)
    (hlegible : ∀ frame ∈ frames, Socket.Legible role frame) (hcarries : Socket.Carries none frames contents)
    (tail : Bytes) :
    Receiving frames contents tail (.start (ofSocket id config (.ofWire role wire threshold keys))) :=
  receiving_healthy id config role threshold keys ⟨Or.inl hopen, hshut⟩ hlegible hcarries tail

end runs

/-! ## What follows for the reads -/

/-- **Reads report the messages of the peer**, which carries `contents` up to the tail of its stream. -/
structure Receives (h : History) (contents : List Content) (tail future : Bytes) : Prop where
  /-- A read that has not obtained the reading half reports nothing. -/
  waited : ∀ {n outcome}, h.connection.At n .read (.finished outcome) → n ∈ h.order .reading ∨ isTimeout outcome = true
  /-- Reads report one message each, in the order in which the messages have arrived. They report more only if
      something else has come behind the messages, or the peer has ended its stream. -/
  inOrder : results h <+: contents.map report ∨ contents.map report <+: results h ∧
    (h.connection.socket.wire.ending = .open → Frame.decode (some frameLimit) tail ≠ .unfinished)
  /-- When everything has arrived, the next read whose turn it is reports the next message, whatever has become of the
      reads before. -/
  next : future = [] → ∀ {n}, h.connection.grants .reading n = true →
    ∀ content ∈ contents[(results h).length]?, ∀ now,
      (h.connection.step now n).outcome? n = some (report content)

/-- **A frame that is too long is reported once**, and behind it reads find the end. -/
structure Refuses (h : History) (contents : List Content) (future : Bytes) : Prop where
  /-- Reads report the messages before it, then it, and then the end. -/
  inOrder : results h <+: contents.map report ∨ ∃ k,
    results h = contents.map report ++ .failed .badBuffer :: List.replicate k (.failed .connectionClosed)
  /-- When everything has arrived and the messages have been reported, the next read whose turn it is does so. -/
  next : future = [] → ∀ {n}, h.connection.grants .reading n = true → contents.length ≤ (results h).length → ∀ now,
    (h.connection.step now n).outcome? n = some (.failed
      (if (results h).length = contents.length then .badBuffer else .connectionClosed))

section receives

variable {h : History} {frames : List Frame} {contents : List Content} {tail future : Bytes}

/-- **Whose turn it is gets what the socket has**, even if its deadline has passed. -/
theorem step_turn {c : Connection} {n : Nat} (result : Except Error String) (hopen : Unclosed c)
    (hgrants : c.grants .reading n = true) (hnext : (nextText c.socket).1 = .ofExcept result) (now : Nat) :
    (c.step now n).outcome? n = some (outcomeOf result) := by
  obtain ⟨call, deadline, hat⟩ := at_of_grants hgrants
  obtain ⟨_, _, hsignal, hqueue⟩ := (grants_iff hat).mp hgrants
  have hqueue : (c.readers.join n).serves n = true := hqueue
  obtain rfl := eq_read_of_grants hat hgrants
  rcases hpair : nextText c.socket with ⟨attempt, socket⟩
  rw [hpair] at hnext
  obtain rfl : attempt = .ofExcept result := hnext
  have hat' : ({ c with readers := c.readers.join n, socket } : Connection).At n .read (.waiting deadline) := hat
  rw [step_eq_advance hat]
  show (c.pollRead now n deadline).outcome? n = _
  unfold pollRead
  rw [hsignal]
  simp only [Bool.false_eq_true, if_false, hqueue, if_true, hopen.reader, hpair]
  cases result with
  | ok words => exact outcome?_of_at (at_conclude hat' _)
  | error cause => exact outcome?_of_at (at_conclude hat' _)

theorem Receiving.receives (hr : Receiving frames contents tail h)
    (hstream : h.arrived ++ future = frames.flatMap Frame.encode ++ tail)
    (hfinal : h.connection.socket.wire.ending = .ended → future = []) : Receives h contents tail future := by
  have hp := hr.progress future hstream hfinal
  constructor
  case waited => exact hr.waited
  case inOrder =>
    cases hp with
    | coming hcontents hresults hinflow =>
      left
      rw [hresults, hcontents, List.map_append]
      exact List.prefix_append _ _
    | beyond hresults hmet _ => exact Or.inr ⟨hresults, hmet⟩
  case next =>
    rintro rfl n hgrants content hcontent now
    cases hp with
    | beyond hresults _ _ =>
      -- nothing is to come
      have hlength := hresults.length_le
      rw [List.length_map] at hlength
      rw [List.getElem?_eq_none hlength] at hcontent
      cases hcontent
    | @coming front rest frames' hcontents hresults hinflow =>
      rw [hresults, List.length_map, hcontents, List.getElem?_append_right (Nat.le_refl _), Nat.sub_self] at hcontent
      have hhears := nextText_hears hinflow
      refine step_turn (heard content) hr.unclosed hgrants ?_ now
      generalize nextText h.connection.socket = result at hhears
      cases hhears with
      | content hrest _ =>
        rw [hrest] at hcontent
        cases hcontent
        rfl
      | beyond hnil _ _ =>
        rw [hnil] at hcontent
        cases hcontent
      | waits hinflow' hstarved =>
        rw [(hinflow'.starved hstarved).1] at hcontent
        cases hcontent

theorem Receiving.refuses (hr : Receiving frames contents tail h)
    (hstream : h.arrived ++ future = frames.flatMap Frame.encode ++ tail)
    (hopen : h.connection.socket.wire.ending = .open) {length : Nat}
    (htail : Frame.decode (some frameLimit) tail = .tooLong length) : Refuses h contents future := by
  have hp := hr.progress future hstream fun hended => by rw [hopen] at hended; cases hended
  constructor
  case inOrder =>
    cases hp with
    | coming hcontents hresults hinflow =>
      left
      rw [hresults, hcontents, List.map_append]
      exact List.prefix_append _ _
    | beyond _ _ hlong =>
      obtain ⟨_, _, hk⟩ := hlong hopen length htail
      exact Or.inr hk
  case next =>
    rintro rfl n hgrants hall now
    cases hp with
    | beyond _ _ hlong =>
      obtain ⟨_, hended, k, hk⟩ := hlong hopen length htail
      rw [if_neg (by rw [hk]; simp)]
      exact step_turn (.error .connectionClosed) hr.unclosed hgrants (by rw [nextText_ended hended]; rfl) now
    | @coming front rest frames' hcontents hresults hinflow =>
      have hnil : rest = [] := by
        rw [hresults, hcontents, List.length_append, List.length_map] at hall
        exact List.length_eq_zero_iff.mp (by omega)
      rw [if_pos (by rw [hresults, hcontents, hnil, List.append_nil, List.length_map])]
      have hhears := nextText_hears hinflow
      refine step_turn (.error .badBuffer) hr.unclosed hgrants ?_ now
      generalize nextText h.connection.socket = result at hhears
      cases hhears with
      | content hrest _ =>
        rw [hnil] at hrest
        cases hrest
      | beyond _ _ hlong =>
        obtain ⟨_, _, rfl⟩ := hlong hopen length htail
        rfl
      | waits hinflow' hstarved =>
        -- everything has arrived, so the frame would be seen to be too long
        rw [(hinflow'.starved hstarved).2] at htail
        cases htail

/-- Nobody closes a connection whose peer sends only messages of data, pings and pongs, up to a frame that is too
    long. -/
theorem Receiving.active (hr : Receiving frames contents tail h)
    (hstream : h.arrived ++ future = frames.flatMap Frame.encode ++ tail)
    (hopen : h.connection.socket.wire.ending = .open)
    (htail : Frame.decode (some frameLimit) tail = .unfinished ∨
      ∃ length, Frame.decode (some frameLimit) tail = .tooLong length) : h.connection.socket.phase = .active := by
  have hp := hr.progress future hstream fun hended => by rw [hopen] at hended; cases hended
  cases hp with
  | coming _ _ hinflow => exact hinflow.active
  | beyond _ hmet hlong =>
    rcases htail with hunfinished | ⟨length, htail⟩
    · exact absurd hunfinished (hmet hopen)
    · exact (hlong hopen length htail).1

/-- **Messages are reported exactly once and in order**, whatever the schedule. -/
theorem receives_run (id : ConnectionId) (config : Config) (role : Socket.Role) {wire : Net.Wire} (threshold : Nat)
    (keys : Nat → MaskKey) (hopen : wire.ending = .open) (hshut : wire.shut = false) {events : List Event}
    (hcalm : ∀ event ∈ events, event.IsCalm) (hlegible : ∀ frame ∈ frames, Socket.Legible role frame)
    (hcarries : Socket.Carries none frames contents) {h : History}
    (hrun : h = (History.start (ofSocket id config (.ofWire role wire threshold keys))).run events)
    (hstream : h.arrived ++ future = frames.flatMap Frame.encode ++ tail)
    (hfinal : h.connection.socket.wire.ending = .ended → future = []) : Receives h contents tail future := by
  subst hrun
  have hstart := receiving_start id config role threshold keys hopen hshut hlegible hcarries tail
  exact (hstart.run hcalm).receives hstream hfinal

/-- A text comes in two fragments with a ping between them, cut within frames. The read that meets the first piece is
    given up, and the next one reports the text. -/
theorem receives_run_of_cut :
    ∃ h, h = (History.start (ofSocket (.random 0) .default (.ofWire .client .fresh 0 fun _ => ⟨1, 2, 3, 4⟩))).run
        [.enter .read, .step 0 0, .step 0 0, .peer (.deliver [1, 1]), .step 60000000000 0, .enter .read,
          .step 60000000000 1, .step 60000000000 1, .peer (.deliver [104, 137, 0, 128]), .step 60000000000 1,
          .peer (.deliver [1, 105]), .step 60000000000 1] ∧
      Receives h [.text "hi"] [] [] ∧ results h = [.text "hi"] := by
  have hlegible : ∀ frame ∈ ([⟨false, 0, .text, none, [104]⟩, .whole .ping [], ⟨true, 0, .continuation, none, [105]⟩] :
      List Frame), Socket.Legible .client frame := by
    intro frame hmem
    simp only [List.mem_cons, List.not_mem_nil, or_false] at hmem
    rcases hmem with rfl | rfl | rfl
    · exact ⟨rfl, by decide, by decide⟩
    · exact ⟨rfl, by decide, by decide⟩
    · exact ⟨rfl, by decide, by decide⟩
  have hcarries : Socket.Carries none
      [⟨false, 0, .text, none, [104]⟩, .whole .ping [], ⟨true, 0, .continuation, none, [105]⟩] [.text "hi"] :=
    .first rfl rfl ⟨[105], by decide⟩ (by decide)
      (.beat (Or.inl rfl) rfl (by decide) (.last rfl rfl (by decide) .done))
  refine ⟨_, rfl, ?_, rfl⟩
  exact receives_run (.random 0) .default .client 0 (fun _ => ⟨1, 2, 3, 4⟩) rfl rfl (by simp [Event.IsCalm]) hlegible
    hcarries rfl (by decide) (by decide)

end receives

end Connection

end TextSocket
