import TextSocket.Proofs.Connection.Receiving
import TextSocket.Proofs.Socket.Farewell

/-!
# `Proofs.Connection.Farewell` — what reads report of the end

A peer sends its frames, perhaps a close frame behind them, and ends its stream. The reads report the messages of the
frames one by one (`account`). Behind the last message it depends on the close frame what they report. **With a close
frame every read finds the connection closed. Without one the first read meets a violation of the protocol**, and only
the reads behind it find the connection closed (`parts_run`). So the end of a stream is not always reported as a closed
connection (`end_unreported`).

## Contents

* `account` — what each read is to report;
* `Meets`, `nextText_meets` — what a reader gets at the end of the stream;
* `Parting`, `parting_law` — the law;
* `Parts`, `parts_run` — what follows for the reads.
-/

namespace TextSocket

namespace Connection

open Net (Attempt Wire)
open Socket (Content Inflow Parted IsFarewell farewellBytes)

/-! ## The account -/

/-- A connection that the peer has closed, to a read. -/
def closedEnd : Call.Outcome := .failed .connectionClosed

/-- A stream that ends without a close frame, to a read. -/
def cutEnd : Call.Outcome := .failed (.socket (.protocol .resetWithoutClosing))

/-- **What the reads report of contents and of the end behind them**, one after another. It matters whether the last
    frame is a close frame. -/
def account (contents : List Content) (closes : Bool) (i : Nat) : Call.Outcome :=
  match contents[i]? with
  | some content => report content
  | none => if !closes && i == contents.length then cutEnd else closedEnd

section account

variable {contents front rest : List Content} {closes : Bool} {k i : Nat} {outcome : Call.Outcome}

/-- Some results are the first ones of an account. -/
def Accords (results : List Call.Outcome) (contents : List Content) (closes : Bool) : Prop :=
  ∀ i, ∀ outcome ∈ results[i]?, outcome = account contents closes i

theorem accords_front (hcontents : contents = front ++ rest) : Accords (front.map report) contents closes := by
  intro i outcome houtcome
  rw [Option.mem_def, List.getElem?_map, Option.map_eq_some_iff] at houtcome
  obtain ⟨content, hcontent, rfl⟩ := houtcome
  obtain ⟨hless, -⟩ := List.getElem?_eq_some_iff.mp hcontent
  rw [account, hcontents, List.getElem?_append_left hless, hcontent]

/-- Behind the last message the account goes on with the end. -/
theorem account_behind (hi : contents.length ≤ i) :
    account contents closes i = if !closes && i == contents.length then cutEnd else closedEnd := by
  rw [account, List.getElem?_eq_none hi]

theorem accords_closed (k : Nat) :
    Accords (contents.map report ++ List.replicate k closedEnd) contents true := by
  intro i outcome houtcome
  by_cases hi : i < contents.length
  · rw [List.getElem?_append_left (by rwa [List.length_map])] at houtcome
    exact accords_front (List.append_nil contents).symm i outcome houtcome
  · rw [List.getElem?_append_right (by rw [List.length_map]; omega)] at houtcome
    rw [account_behind (Nat.not_lt.mp hi)]
    exact List.eq_of_mem_replicate (List.mem_of_getElem? houtcome)

theorem accords_cut (k : Nat) :
    Accords (contents.map report ++ cutEnd :: List.replicate k closedEnd) contents false := by
  intro i outcome houtcome
  by_cases hi : i < contents.length
  · rw [List.getElem?_append_left (by rwa [List.length_map])] at houtcome
    exact accords_front (List.append_nil contents).symm i outcome houtcome
  · rw [List.getElem?_append_right (by rw [List.length_map]; omega), List.length_map] at houtcome
    rw [account_behind (Nat.not_lt.mp hi)]
    -- the cut is reported once, and behind it that the connection is closed
    by_cases hfirst : i = contents.length
    · subst hfirst
      rw [Nat.sub_self] at houtcome
      cases houtcome
      simp
    · obtain ⟨j, hj⟩ : ∃ j, i - contents.length = j + 1 := ⟨i - contents.length - 1, by omega⟩
      rw [hj, List.getElem?_cons_succ] at houtcome
      rw [if_neg (by simp [hfirst])]
      exact List.eq_of_mem_replicate (List.mem_of_getElem? houtcome)

end account

/-! ## What a reader gets -/

/-- **What a reader gets** of a stream with its end. -/
inductive Meets (future : Bytes) (contents : List Content) (farewell : Option Frame) :
    Attempt Error String × Socket → Prop where
  /-- It has to wait. -/
  | waits {t : Socket} {frames : List Frame} (hinflow : Inflow t future frames contents (farewellBytes farewell))
      (hcoming : t.wire.ending ≠ .open → future ≠ []) : Meets future contents farewell (.blocked, t)
  /-- It gets what the next content means. -/
  | content {t : Socket} {content : Content} {frames : List Frame} {rest : List Content}
      (hcontents : contents = content :: rest) (hinflow : Inflow t future frames rest (farewellBytes farewell)) :
      Meets future contents farewell (.ofExcept (heard content), t)
  /-- It gets the close frame. -/
  | closes {t : Socket} (hcontents : contents = []) (hsome : farewell.isSome = true) (hfuture : future = [])
      (hparted : Parted t) : Meets future contents farewell (.error .connectionClosed, t)
  /-- It finds that the stream has been cut off. -/
  | cut {t : Socket} (hcontents : contents = []) (hnone : farewell.isSome = false) (hended : t.ended = true)
      (hending : t.wire.ending ≠ .open) :
      Meets future contents farewell (.error (.socket (.protocol .resetWithoutClosing)), t)

section meets

variable {s : Socket} {future : Bytes} {frames : List Frame} {contents : List Content} {farewell : Option Frame}

/-- **A reader gets the messages and the end.** The induction is on the messages that may be taken. -/
theorem nextTextWith_meets (fuel : Nat) (h : Inflow s future frames contents (farewellBytes farewell))
    (hfarewell : ∀ frame ∈ farewell, IsFarewell s.role frame) (hfuel : s.wire.incoming.length < fuel) :
    Meets future contents farewell (nextTextWith fuel s) := by
  induction fuel generalizing s frames with
  | zero => omega
  | succ fuel ih =>
    have hreaches := Socket.read_reaches h
    have hrole : s.next.2.role = s.role := (s.next_posts).advances.role
    unfold nextTextWith
    unfold Socket.next at hrole ⊢
    rw [h.going] at hrole ⊢
    simp only [Bool.false_eq_true, if_false] at hrole ⊢
    generalize s.read = result at hreaches hrole
    cases hreaches with
    | waits hinflow hstarved =>
      refine .waits hinflow fun _ => ?_
      rintro rfl
      exact hinflow.not_starved hstarved
    | beat hinflow hbeat hsize _ =>
      simp only [readMessage?_beat hbeat]
      refine ih hinflow ?_ (by omega)
      rw [show _ = s.role from hrole]
      exact hfarewell
    | content hcontents hinflow =>
      simp only [readMessage?_content]
      exact .content hcontents hinflow
    | last again hinflow _ _ hsame =>
      have hends := Socket.takeFrame_ends hinflow (hsame ▸ hfarewell) again
      have hnil := hinflow.contents_nil
      generalize Socket.Result.andThen _ _ = result at hends
      cases hends with
      | waits hinflow' hopen => exact .waits hinflow' fun hno => absurd hopen hno
      | closes hsome hfuture hparted => exact .closes hnil hsome hfuture hparted
      | cut hnone hended => exact .cut hnil hnone rfl (by rw [hended]; simp)

theorem nextText_meets (h : Inflow s future frames contents (farewellBytes farewell))
    (hfarewell : ∀ frame ∈ farewell, IsFarewell s.role frame) : Meets future contents farewell (nextText s) :=
  nextTextWith_meets _ h hfarewell (Nat.lt_succ_self _)

/-- **Behind the close frame a reader finds the connection closed**, or waits for the end of the stream. -/
theorem nextText_parted (h : Parted s) : Parted (nextText s).2 ∧
    ((nextText s).1 = .blocked ∧ s.wire.ending = .open ∨ (nextText s).1 = .error .connectionClosed) := by
  have hparted := h.next
  have hnext := Socket.next_parted h
  unfold nextText nextTextWith
  rcases hresult : s.next with ⟨(_ | message) | cause | _, t⟩
  all_goals rw [hresult] at hparted hnext
  · exact ⟨hparted, Or.inr rfl⟩
  · rcases hnext with ⟨hno, _⟩ | hno
    · cases hno
    · cases hno
  · rcases hnext with ⟨hno, _⟩ | hno
    · cases hno
    · cases hno
  · refine ⟨hparted, Or.inl ⟨rfl, ?_⟩⟩
    rcases hnext with ⟨_, hopen⟩ | hno
    · exact hopen
    · cases hno

end meets

/-! ## The law -/

/-- **What reads have reported, together with what is still to come, is the account of the peer.** -/
inductive Parting (role : Socket.Role) (contents : List Content) (farewell : Option Frame) (future : Bytes)
    (h : History) : Prop where
  /-- Messages or the end are still to come. -/
  | coming {front rest : List Content} {frames : List Frame} (hrole : h.connection.socket.role = role)
      (hcontents : contents = front ++ rest) (hresults : results h = front.map report)
      (hinflow : Inflow h.connection.socket future frames rest (farewellBytes farewell))
  /-- The close frame has been met. -/
  | closed {k : Nat} (hsome : farewell.isSome = true) (hfuture : future = [])
      (hresults : results h = contents.map report ++ List.replicate k closedEnd) (hbehind : 0 < k)
      (hparted : Parted h.connection.socket)
  /-- The stream has been found to be cut off. -/
  | cut {k : Nat} (hnone : farewell.isSome = false) (hending : h.connection.socket.wire.ending ≠ .open)
      (hended : h.connection.socket.ended = true)
      (hresults : results h = contents.map report ++ cutEnd :: List.replicate k closedEnd)

section law

variable {role : Socket.Role} {contents : List Content} {farewell : Option Frame} {future : Bytes} {h h' : History}

/-- The results behind a question that has to wait. -/
theorem results_waits (hresults : results h' = results h ++
      ((said (.blocked : Attempt Error String)).filter fun outcome => !isTimeout outcome).toList) :
    results h' = results h := by
  rw [hresults]
  exact List.append_nil _

/-- The results behind a question that is answered. -/
theorem results_answered (result : Except Error String) (hno : isTimeout (outcomeOf result) = false)
    (hresults : results h' = results h ++
      ((said (.ofExcept result)).filter fun outcome => !isTimeout outcome).toList) :
    results h' = results h ++ [outcomeOf result] := by
  rw [hresults, said_ofExcept, Option.filter_some, if_pos (by rw [hno]; rfl)]
  rfl

theorem Parting.asks (hfarewell : ∀ frame ∈ farewell, IsFarewell role frame)
    (hp : Parting role contents farewell future h) (hsound : Sound False h.connection.socket.wire)
    (hsocket : h'.connection.socket = (nextText h.connection.socket).2)
    (hresults : results h' = results h ++
      ((said (nextText h.connection.socket).1).filter fun outcome => !isTimeout outcome).toList) :
    Parting role contents farewell future h' := by
  have hending := (nextText_steady _ (hsound.resolve_right And.left)).2
  have hkept : h'.connection.socket.role = h.connection.socket.role := by
    rw [hsocket]
    exact (nextText_posts h.connection.socket).advances.role
  cases hp with
  | @coming front rest frames hrole hcontents hbefore hinflow =>
    -- what the reader gets is the next message, or the end if there is none
    have hmeets := nextText_meets hinflow (hrole ▸ hfarewell)
    generalize nextText h.connection.socket = result at hmeets hsocket hresults
    have hrole' := hkept.trans hrole
    cases hmeets with
    | waits hinflow' _ =>
      exact .coming hrole' hcontents ((results_waits hresults).trans hbefore) (by rw [hsocket]; exact hinflow')
    | @content t content frames' rest' hrest hinflow' =>
      have hcontents' : contents = (front ++ [content]) ++ rest' := by
        rw [hcontents, hrest, List.append_assoc]
        rfl
      refine .coming hrole' hcontents' ?_ (by rw [hsocket]; exact hinflow')
      rw [results_answered (heard content) (isTimeout_report content) hresults, hbefore, List.map_append]
      rfl
    | closes hnil hsome hfuture hparted =>
      rw [hnil, List.append_nil] at hcontents
      refine .closed (k := 1) hsome hfuture ?_ (by omega) (by rw [hsocket]; exact hparted)
      rw [results_answered (.error .connectionClosed) rfl hresults, hbefore, hcontents]
      rfl
    | cut hnil hnone hended hending =>
      rw [hnil, List.append_nil] at hcontents
      refine .cut (k := 0) hnone (by rw [hsocket]; exact hending) (by rw [hsocket]; exact hended) ?_
      rw [results_answered (.error (.socket (.protocol .resetWithoutClosing))) rfl hresults, hbefore, hcontents]
      rfl
  | @closed k hsome hfuture hbefore hbehind hparted =>
    obtain ⟨hparted', hsaid⟩ := nextText_parted hparted
    rw [← hsocket] at hparted'
    rcases hsaid with ⟨hwaits, -⟩ | hclosed
    · rw [hwaits] at hresults
      exact .closed hsome hfuture ((results_waits hresults).trans hbefore) hbehind hparted'
    · rw [hclosed] at hresults
      refine .closed (k := k + 1) hsome hfuture ?_ (by omega) hparted'
      rw [results_answered (.error .connectionClosed) rfl hresults, hbefore, List.replicate_succ',
        List.append_assoc]
      rfl
  | @cut k hnone hnot hended hbefore =>
    -- the violation has ended the reading, so the socket is not asked again
    rw [nextText_ended hended] at hsocket hresults
    refine .cut (k := k + 1) hnone (by rw [hsocket]; exact hnot) (by rw [hsocket]; exact hended) ?_
    rw [results_answered (.error .connectionClosed) rfl hresults, hbefore, List.replicate_succ',
      List.append_assoc, List.cons_append]
    rfl

/-- **The account is a law of reading.** -/
theorem parting_law (hfarewell : ∀ frame ∈ farewell, IsFarewell role frame) :
    Law False (Parting role contents farewell) where
  writes hp hsound hkeeps hlasts hresults := by
    have hhealthy := hsound.resolve_right And.left
    cases hp with
    | coming hrole hcontents hbefore hinflow =>
      exact .coming (hkeeps.role.trans hrole) hcontents (hresults.trans hbefore) (hinflow.keeps hkeeps)
    | closed hsome hfuture hbefore hbehind hparted =>
      exact .closed hsome hfuture (hresults.trans hbefore) hbehind (hparted.keeps hkeeps hlasts)
    | cut hnone hending hended hbefore =>
      exact .cut hnone ((hkeeps.healthy hhealthy).2 ▸ hending) (hlasts.ended hended) (hresults.trans hbefore)
  asks hp hsound _ hsocket hresults := hp.asks hfarewell hsound hsocket hresults
  arrives {h h' future future'} change hp hconnection hresults hsound hbytes hfinal hopen _ := by
    have hhealthy := hsound.resolve_right And.left
    cases hp with
    | @coming front rest frames hrole hcontents hbefore hinflow =>
      have hinflow' : Inflow h'.connection.socket future' frames rest (farewellBytes farewell) := by
        rw [hconnection]
        exact hinflow.onWire hbytes hhealthy fun hended => hfinal (by rw [hended]; simp)
      exact .coming (by rw [hconnection]; exact hrole) hcontents (hresults.trans hbefore) hinflow'
    | closed hsome hfuture hbefore hbehind hparted =>
      -- nothing was left to arrive
      rw [hfuture, hparted.empty] at hbytes
      obtain ⟨hempty, hfuture'⟩ := List.append_eq_nil_iff.mp hbytes
      refine .closed hsome hfuture' (hresults.trans hbefore) hbehind ?_
      rw [hconnection]
      exact ⟨hparted.silent, hhealthy, hempty⟩
    | cut hnone hending hended hbefore =>
      refine .cut hnone ?_ ?_ (hresults.trans hbefore)
      · rw [hconnection]
        exact fun hopen' => hending (hopen hopen')
      · rw [hconnection]
        exact hended

end law

/-! ## What follows for the reads -/

/-- **What reads report of a peer that ends its stream.** -/
structure Parts (h : History) (contents : List Content) (farewell : Option Frame) : Prop where
  /-- What has been reported is the beginning of the account. -/
  inOrder : Accords (results h) contents farewell.isSome
  /-- As long as the stream is open, no end is reported but that of a close frame. -/
  early : h.connection.socket.wire.ending = .open → farewell = none → (results h).length ≤ contents.length
  /-- When the peer has ended its stream, the next read whose turn it is reports what the account says. -/
  next : h.connection.socket.wire.ending = .ended → ∀ {n}, h.connection.grants .reading n = true → ∀ now,
    (h.connection.step now n).outcome? n = some (account contents farewell.isSome (results h).length)

section parts

variable {h : History} {frames : List Frame} {contents : List Content} {farewell : Option Frame} {future : Bytes}
  {role : Socket.Role}

/-- Whose turn it is has its answer, when nothing is still to come. -/
theorem Parting.next (hp : Parting role contents farewell [] h) (hfarewell : ∀ frame ∈ farewell, IsFarewell role frame)
    (hopen : Unclosed h.connection) (hhealthy : h.connection.socket.wire.Healthy)
    (hended : h.connection.socket.wire.ending = .ended) {n : Nat} (hgrants : h.connection.grants .reading n = true)
    (now : Nat) :
    (h.connection.step now n).outcome? n = some (account contents farewell.isSome (results h).length) := by
  have hending := (nextText_steady _ hhealthy).2
  have hnot : h.connection.socket.wire.ending ≠ .open := by rw [hended]; simp
  cases hp with
  | @coming front rest frames hrole hcontents hbefore hinflow =>
    have hmeets := nextText_meets hinflow (hrole ▸ hfarewell)
    rw [hbefore, List.length_map]
    generalize hresult : nextText h.connection.socket = result at hmeets hending
    cases hmeets with
    | waits _ hcoming => exact absurd rfl (hcoming (hending ▸ hnot))
    | @content t content frames' rest' hrest _ =>
      rw [step_turn (heard content) hopen hgrants (by rw [hresult]) now, account, hcontents, hrest,
        List.getElem?_append_right (Nat.le_refl _), Nat.sub_self]
      rfl
    | closes hnil hsome _ _ =>
      rw [hnil, List.append_nil] at hcontents
      rw [step_turn (.error .connectionClosed) hopen hgrants (by rw [hresult]; rfl) now,
        account_behind (Nat.le_of_eq (by rw [hcontents])), hsome]
      rfl
    | cut hnil hnone _ _ =>
      rw [hnil, List.append_nil] at hcontents
      rw [step_turn (.error (.socket (.protocol .resetWithoutClosing))) hopen hgrants (by rw [hresult]; rfl) now,
        account_behind (Nat.le_of_eq (by rw [hcontents])), hnone, hcontents, if_pos (by simp)]
      rfl
  | @closed k hsome _ hbefore _ hparted =>
    have hclosed := (nextText_parted hparted).2.resolve_left fun ⟨_, hno⟩ => hnot hno
    rw [step_turn (.error .connectionClosed) hopen hgrants (by rw [hclosed]; rfl) now, hbefore,
      account_behind (by simp), hsome]
    rfl
  | @cut k hnone _ hover hbefore =>
    rw [step_turn (.error .connectionClosed) hopen hgrants (by rw [nextText_ended hover]; rfl) now, hbefore,
      account_behind (by simp), if_neg (by simp)]
    rfl

theorem Follows.parts (hf : Follows False (frames.flatMap Frame.encode ++ farewellBytes farewell)
      (Parting role contents farewell) h) (hfarewell : ∀ frame ∈ farewell, IsFarewell role frame)
    (hstream : h.arrived ++ future = frames.flatMap Frame.encode ++ farewellBytes farewell)
    (hfinal : h.connection.socket.wire.ending = .ended → future = []) : Parts h contents farewell := by
  have hhealthy := hf.sound.resolve_right And.left
  have hp := hf.law future hstream fun hno => hfinal ((ne_open_iff hhealthy).mp hno)
  constructor
  case inOrder =>
    cases hp with
    | coming _ hcontents hresults _ =>
      rw [hresults]
      exact accords_front hcontents
    | @closed k hsome _ hresults _ _ =>
      rw [hresults, hsome]
      exact accords_closed k
    | @cut k hnone _ _ hresults =>
      rw [hresults, hnone]
      exact accords_cut k
  case early =>
    intro hopen hnone
    cases hp with
    | coming _ hcontents hresults _ =>
      rw [hresults, hcontents, List.length_map, List.length_append]
      omega
    | closed hsome _ _ _ _ =>
      rw [hnone] at hsome
      cases hsome
    | cut _ hending _ _ => exact absurd hopen hending
  case next =>
    intro hended n hgrants now
    obtain rfl := hfinal hended
    exact hp.next hfarewell hf.unclosed hhealthy hended hgrants now

/-- **Reads report the messages of the peer and the end of its stream**, whatever the schedule. -/
theorem parts_run (id : ConnectionId) (config : Config) (role : Socket.Role) {wire : Wire} (threshold : Nat)
    (keys : Nat → MaskKey) (hopen : wire.ending = .open) (hshut : wire.shut = false) {events : List Event}
    (hcalm : ∀ event ∈ events, event.IsCalm) (hlegible : ∀ frame ∈ frames, Socket.Legible role frame)
    (hcarries : Socket.Carries none frames contents) (hfarewell : ∀ frame ∈ farewell, IsFarewell role frame) {h : History}
    (hrun : h = (History.start (ofSocket id config (.ofWire role wire threshold keys))).run events)
    (hstream : h.arrived ++ future = frames.flatMap Frame.encode ++ farewellBytes farewell)
    (hfinal : h.connection.socket.wire.ending = .ended → future = []) : Parts h contents farewell := by
  have hhealthy : wire.Healthy := ⟨Or.inl hopen, hshut⟩
  have hstart : Follows False (frames.flatMap Frame.encode ++ farewellBytes farewell) (Parting role contents farewell)
      (.start (ofSocket id config (.ofWire role wire threshold keys))) := by
    refine follows_start id config role threshold keys (Or.inl hhealthy) fun future hstream hfinal => ?_
    have hinflow : Inflow (.ofWire role wire threshold keys) future frames contents (farewellBytes farewell) :=
      ⟨⟨hstream, hlegible, ⟨none, trivial, hcarries⟩, rfl, rfl,
        fun hended => hfinal ((ne_open_iff hhealthy).mpr hended)⟩, hhealthy⟩
    exact .coming rfl (List.nil_append contents).symm rfl hinflow
  subst hrun
  exact (hstart.run (parting_law hfarewell) fun event hmem => (hcalm event hmem).isAllowed).parts hfarewell hstream hfinal

/-- A peer sends a text and ends its stream, once with a close frame and once without it. In both cases the second read
    meets the end. -/
theorem parts_run_of_both :
    (∃ h, h = (History.start (ofSocket (.random 0) .default (.ofWire .client .fresh 0 fun _ => ⟨1, 2, 3, 4⟩))).run
        [.enter .read, .step 0 0, .step 0 0, .peer (.deliver [129, 2, 104]), .step 0 0,
          .peer (.deliver [105, 136, 0]), .peer .finish, .step 0 0, .enter .read, .step 0 1, .step 0 1, .step 0 1] ∧
      Parts h [.text "hi"] (some (.whole .close [])) ∧ results h = [.text "hi", closedEnd]) ∧
    ∃ h, h = (History.start (ofSocket (.random 0) .default (.ofWire .client .fresh 0 fun _ => ⟨1, 2, 3, 4⟩))).run
        [.peer (.deliver [129, 2, 104, 105]), .peer .finish, .enter .read, .step 0 0, .step 0 0, .step 0 0,
          .enter .read, .step 0 1, .step 0 1, .step 0 1] ∧
      Parts h [.text "hi"] none ∧ results h = [.text "hi", cutEnd] := by
  have hlegible : ∀ frame ∈ ([.whole .text [104, 105]] : List Frame), Socket.Legible .client frame := by
    intro frame hmem
    obtain rfl := List.mem_singleton.mp hmem
    exact ⟨rfl, by decide, by decide⟩
  have hcarries : Socket.Carries none [.whole .text [104, 105]] [.text "hi"] := .whole rfl rfl (by decide) .done
  have hfarewell : ∀ frame ∈ some (Frame.whole .close []), IsFarewell .client frame := by
    intro frame hmem
    obtain rfl := Option.mem_some.mp hmem
    exact ⟨⟨rfl, by decide, by decide⟩, rfl, rfl, by decide, ⟨none, rfl⟩⟩
  have hnone : ∀ frame ∈ (none : Option Frame), IsFarewell .client frame := by simp
  constructor
  · refine ⟨_, rfl, ?_, rfl⟩
    exact parts_run (.random 0) .default .client 0 (fun _ => ⟨1, 2, 3, 4⟩) rfl rfl (by simp [Event.IsCalm]) hlegible
      hcarries hfarewell rfl (show _ ++ [] = _ by decide) fun _ => rfl
  · refine ⟨_, rfl, ?_, rfl⟩
    exact parts_run (.random 0) .default .client 0 (fun _ => ⟨1, 2, 3, 4⟩) rfl rfl (by simp [Event.IsCalm]) hlegible
      hcarries hnone rfl (show _ ++ [] = _ by decide) fun _ => rfl

/-- A peer ends its stream at once and sends nothing. In either role the first read reports a violation of the
    protocol, and not that the connection is closed. -/
theorem end_unreported :
    results ((History.start (ofSocket (.random 0) .default (.ofWire .server .fresh 0 fun _ => ⟨1, 2, 3, 4⟩))).run
        [.peer .finish, .enter .read, .step 0 0, .step 0 0, .step 0 0]) =
        [.failed (.socket (.protocol .resetWithoutClosing))] ∧
      results ((History.start (ofSocket (.random 0) .default (.ofWire .client .fresh 0 fun _ => ⟨1, 2, 3, 4⟩))).run
        [.peer .finish, .enter .read, .step 0 0, .step 0 0, .step 0 0]) =
        [.failed (.socket (.protocol .resetWithoutClosing))] :=
  ⟨rfl, rfl⟩

end parts

end Connection

end TextSocket
