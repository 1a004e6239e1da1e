import TextSocket.Proofs.Connection.Aftermath
import TextSocket.Proofs.Connection.Receiving
import TextSocket.Proofs.Connection.Sending
import TextSocket.Proofs.Socket.Broken

/-!
# `Proofs.Connection.Recovery` — the reads behind one that has not failed for good

A read that is given up, or gets a message that is no text, leaves the next message to the next read. On a stream that
the peer does not reset this is the law of conservation of reading. When the peer does reset it, what has arrived is
still there, and the law goes on up to the first failure (`Course`). **The next message is lost only if an answer to a
ping stands in its way** on a stream that has been reset.

## Contents

* `Gets`, `nextText_gets` — what a reader gets of a stream that the peer may have reset;
* `Course`, `Recovering` — the law, and what a run keeps;
* `Recovering.next` — what the next read reports.
-/

namespace TextSocket.Connection

open Net (Attempt)
open Socket (Content Unread Clear Starved Keeps)

/-! ## What a reader gets -/

/-- **What a reader gets** that begins with a socket, whatever has become of its stream. -/
inductive Gets (s : Socket) (future : Bytes) (frames : List Frame) (contents : List Content) (tail : Bytes) :
    Attempt Error String × Socket → Prop where
  /-- It has to wait. -/
  | waits {t : Socket} {unread : List Frame} (hunread : Unread t future unread contents tail)
      (hframes : unread <:+ frames) (hstarved : Starved t) : Gets s future frames contents tail (.blocked, t)
  /-- It gets what the next content means. -/
  | content {t : Socket} {content : Content} {unread : List Frame} {rest : List Content}
      (hcontents : contents = content :: rest) (hunread : Unread t future unread rest tail)
      (hframes : unread <:+ frames) : Gets s future frames contents tail (.ofExcept (heard content), t)
  /-- It meets what is behind the frames. -/
  | beyond {t : Socket} {result : Attempt Error String} (hcontents : contents = []) :
      Gets s future frames contents tail (result, t)
  /-- It fails on a broken stream. If nothing stands in its way, no message has arrived. -/
  | fails {t : Socket} {cause : Error} (hbroken : ¬ s.wire.Healthy)
      (hlost : Clear s frames → future = [] → contents = [])
      (hfinal : (Call.Outcome.failed cause).isFinal = true) : Gets s future frames contents tail (.error cause, t)

section gets

variable {s t : Socket} {future tail : Bytes} {frames : List Frame} {contents : List Content}

/-- A reader that has begun before gets the same. -/
theorem Gets.since {result : Attempt Error String × Socket} {unread : List Frame}
    (h : Gets t future unread contents tail result) (hframes : unread <:+ frames)
    (hhealthy : s.wire.Healthy → t.wire.Healthy) (hclear : Clear s frames → Clear t unread) :
    Gets s future frames contents tail result := by
  cases h with
  | waits hunread hframes' hstarved => exact .waits hunread (hframes'.trans hframes) hstarved
  | content hcontents hunread hframes' => exact .content hcontents hunread (hframes'.trans hframes)
  | beyond hcontents => exact .beyond hcontents
  | fails hbroken hlost hfinal => exact .fails (hbroken ∘ hhealthy) (hlost ∘ hclear) hfinal

/-- **A reader passes over pings and pongs.** The induction is on the messages that may be taken. -/
theorem nextTextWith_gets (fuel : Nat) (h : Unread s future frames contents tail)
    (hfuel : s.wire.incoming.length < fuel) : Gets s future frames contents tail (nextTextWith fuel s) := by
  induction fuel generalizing s frames with
  | zero => omega
  | succ fuel ih =>
    have htakes := Socket.read_takes h
    unfold nextTextWith Socket.next
    rw [h.going]
    simp only [Bool.false_eq_true, if_false]
    generalize s.read = result at htakes
    cases htakes with
    | waits hunread hframes hstarved => exact .waits hunread hframes hstarved
    | beat hunread hframes hbeat hsize hhealthy hclear =>
      simp only [readMessage?_beat hbeat]
      exact (ih hunread (by omega)).since hframes hhealthy hclear
    | content hcontents hunread hframes =>
      simp only [readMessage?_content]
      exact .content hcontents hunread hframes
    | beyond hcontents => exact .beyond hcontents
    | @fails t cause hbroken hlost =>
      -- an orderly end is told as one, any other failure by its name
      cases cause with
      | closed | alreadyClosed => exact .fails hbroken hlost rfl
      | _ => exact .fails hbroken hlost (isFinal_readFailure _)

theorem nextText_gets (h : Unread s future frames contents tail) :
    Gets s future frames contents tail (nextText s) :=
  nextTextWith_gets _ h (Nat.lt_succ_self _)

end gets

/-! ## The law -/

/-- **What reads have reported, together with what is still to come, is what the peer has sent**, up to the first
    failure on a stream that has been reset. -/
inductive Course (frames : List Frame) (contents : List Content) (tail future : Bytes) (h : History) : Prop
  /-- The peer has sent what has been reported and what is still to come. -/
  | coming {front rest : List Content} {unread : List Frame} (hcontents : contents = front ++ rest)
      (hresults : results h = front.map report) (hframes : unread <:+ frames)
      (hunread : Unread h.connection.socket future unread rest tail)
  /-- Everything has been reported. -/
  | beyond (hresults : contents.map report <+: results h)
  /-- A read has failed for good, and the peer has reset the stream. -/
  | failed {outcome : Call.Outcome} (hcut : h.connection.socket.wire.ending.isCut = true)
      (hresult : outcome ∈ results h) (hfinal : outcome.isFinal = true)

section course

variable {h h' : History} {frames : List Frame} {contents : List Content} {tail future : Bytes}

/-- Writing does not change the law. -/
theorem Course.keeps (hp : Course frames contents tail future h)
    (hkeeps : Keeps h.connection.socket h'.connection.socket) (hresults : results h' = results h) :
    Course frames contents tail future h' := by
  cases hp with
  | coming hcontents hbefore hframes hunread =>
    exact .coming hcontents (hresults.trans hbefore) hframes (hunread.keeps hkeeps)
  | beyond hbefore => exact .beyond (hresults.symm ▸ hbefore)
  | failed hcut hresult hfinal =>
    exact .failed (hkeeps.ending.isCut_eq.trans hcut) (hresults.symm ▸ hresult) hfinal

/-- A read that has failed for good has not been given up. -/
theorem isTimeout_of_isFinal {outcome : Call.Outcome} (h : outcome.isFinal = true) : isTimeout outcome = false := by
  cases htimeout : isTimeout outcome with
  | false => rfl
  | true =>
    rw [(isFinal_of_isTimeout htimeout).1] at h
    cases h

/-- **The turn of a read keeps the law.** -/
theorem Course.turn (hp : Course frames contents tail future h)
    (hsound : h.connection.socket.wire.ending.isCut = true ∨ h.connection.socket.wire.Healthy)
    (hcut : h'.connection.socket.wire.ending.isCut = h.connection.socket.wire.ending.isCut)
    (hsocket : h'.connection.socket = (nextText h.connection.socket).2)
    (hresults : results h' = results h ++
      ((said (nextText h.connection.socket).1).filter fun outcome => !isTimeout outcome).toList) :
    Course frames contents tail future h' := by
  cases hp with
  | @coming front rest unread hcontents hbefore hframes hunread =>
    have hgets := nextText_gets hunread
    generalize nextText h.connection.socket = result at hgets hsocket hresults
    cases hgets with
    | waits hunread' hframes' _ =>
      refine .coming hcontents ?_ (hframes'.trans hframes) (by rw [hsocket]; exact hunread')
      rw [hresults, hbefore]
      exact List.append_nil _
    | @content t content unread' rest' hrest hunread' hframes' =>
      have hcontents' : contents = (front ++ [content]) ++ rest' := by
        rw [hcontents, hrest, List.append_assoc]
        rfl
      refine .coming hcontents' ?_ (hframes'.trans hframes) (by rw [hsocket]; exact hunread')
      rw [hresults, hbefore, said_ofExcept, List.map_append]
      have hreport : (!isTimeout (report content)) = true := by rw [isTimeout_report]; rfl
      show _ ++ ((some (report content)).filter fun outcome => !isTimeout outcome).toList = _
      rw [Option.filter_some, if_pos hreport]
      rfl
    | beyond hnil =>
      rw [hnil, List.append_nil] at hcontents
      rw [hbefore, ← hcontents] at hresults
      exact .beyond ⟨_, hresults.symm⟩
    | @fails t cause hbroken _ hfinal =>
      refine .failed (hcut.trans (hsound.resolve_right hbroken)) ?_ hfinal
      have hreport : (!isTimeout (.failed cause)) = true := by rw [isTimeout_of_isFinal hfinal]; rfl
      rw [hresults]
      refine List.mem_append_right _ ?_
      show _ ∈ ((some (Call.Outcome.failed cause)).filter fun outcome => !isTimeout outcome).toList
      rw [Option.filter_some, if_pos hreport]
      exact List.mem_singleton_self _
  | beyond hbefore => exact .beyond (hbefore.trans ⟨_, hresults.symm⟩)
  | failed hcut' hresult hfinal =>
    refine .failed (hcut.trans hcut') ?_ hfinal
    rw [hresults]
    exact List.mem_append_left _ hresult

/-- **The law up to the first failure is a law of reading.** -/
theorem course_law (frames : List Frame) (contents : List Content) (tail : Bytes) :
    Law True (Course frames contents tail) where
  writes hp _ hkeeps _ hresults := hp.keeps hkeeps hresults
  asks hp hsound hcut hsocket hresults := hp.turn (hsound.symm.imp_left And.right) hcut hsocket hresults
  arrives {h h' future future'} change hp hconnection hresults _ hbytes hfinal _ hcut := by
    cases hp with
    | @coming front rest unread hcontents hbefore hframes hunread =>
      have hunread' : Unread h'.connection.socket future' unread rest tail := by
        rw [hconnection]
        exact hunread.onWire hbytes fun hended => hfinal (by rw [hended]; simp)
      exact .coming hcontents (hresults.trans hbefore) hframes hunread'
    | beyond hbefore => exact .beyond (hresults.symm ▸ hbefore)
    | failed hcut' hresult hfinal =>
      refine .failed ?_ (hresults.symm ▸ hresult) hfinal
      rw [hconnection]
      exact hcut hcut'

end course

/-! ## Runs -/

/-- **What a run keeps** in which nobody closes. -/
structure Recovering (frames : List Frame) (contents : List Content) (tail : Bytes) (h : History) : Prop where
  /-- A half is obtained by one call after another. -/
  turns : Turns h
  /-- Nobody closes. -/
  unclosed : Unclosed h.connection
  /-- The stream is healthy, or the peer has reset it. -/
  sound : h.connection.socket.wire.ending.isCut = true ∨ h.connection.socket.wire.Healthy
  /-- The law holds, whatever is still on its way. When the stream is no longer open, nothing is. -/
  course : ∀ future, h.arrived ++ future = frames.flatMap Frame.encode ++ tail →
    (h.connection.socket.wire.ending ≠ .open → future = []) → Course frames contents tail future h

section runs

variable {h : History} {frames : List Frame} {contents : List Content} {tail : Bytes}

theorem recovering_iff : Recovering frames contents tail h ↔
    Follows True (frames.flatMap Frame.encode ++ tail) (Course frames contents tail) h := by
  constructor
  · exact fun hr => ⟨hr.turns, hr.unclosed, hr.sound.symm.imp_right fun hcut => ⟨trivial, hcut⟩, hr.course⟩
  · exact fun hf => ⟨hf.turns, hf.unclosed, hf.sound.symm.imp_left And.right, hf.law⟩

theorem Recovering.run (hr : Recovering frames contents tail h) {events : List Event}
    (hcalm : .enter .close ∉ events) : Recovering frames contents tail (h.run events) := by
  rw [recovering_iff] at hr ⊢
  exact hr.run (course_law frames contents tail) fun _ hmem => ⟨fun he => hcalm (he ▸ hmem), fun _ => trivial⟩

/-- At the start everything is still to come. -/
theorem recovering_start (id : ConnectionId) (config : Config) (role : Socket.Role) {wire : Net.Wire}
    (threshold : Nat) (keys : Nat → MaskKey) (hshut : wire.shut = false)
    (hlegible : ∀ frame ∈ frames, Socket.Legible role frame) (hcarries : Socket.Carries none frames contents)
    (tail : Bytes) :
    Recovering frames contents tail (.start (ofSocket id config (.ofWire role wire threshold keys))) where
  turns := turns_run id config _ []
  unclosed := ⟨fun hat => (by cases hat), rfl⟩
  sound := by
    show wire.ending.isCut = true ∨ wire.Healthy
    cases hending : wire.ending with
    | «open» => exact Or.inr ⟨Or.inl hending, hshut⟩
    | ended => exact Or.inr ⟨Or.inr hending, hshut⟩
    | reset => exact Or.inl rfl
    | dead => exact Or.inl rfl
  course future hstream hfinal := by
    have hunread : Unread (.ofWire role wire threshold keys) future frames contents tail := by
      refine ⟨hstream, hlegible, ⟨none, trivial, hcarries⟩, rfl, rfl, fun hended => hfinal ?_⟩
      show wire.ending ≠ .open
      rw [show wire.ending = .ended from hended]
      simp
    exact .coming (List.nil_append contents).symm rfl (List.suffix_refl frames) hunread

end runs

/-! ## The next message -/

section next

variable {h : History} {frames : List Frame} {contents : List Content} {tail : Bytes}

/-- Some read has come to a result of a kind. -/
def Met (h : History) (kind : Call.Outcome → Bool) : Prop :=
  ∃ n outcome, h.connection.At n .read (.finished outcome) ∧ kind outcome = true

/-- What reads have reported, some read has come to. -/
theorem met_of_mem_results (ht : Turns h) {outcome : Call.Outcome} (hresult : outcome ∈ results h)
    {kind : Call.Outcome → Bool} (hkind : kind outcome = true) : Met h kind := by
  obtain ⟨n, hmem, htold⟩ := List.mem_filterMap.mp hresult
  obtain ⟨call, stage, hat, hhalf, hturn⟩ := ht.turn hmem
  rcases hturn with ⟨outcome', rfl⟩ | ⟨hlistens, _, _⟩
  · rw [told_of_over hat, Option.filter_eq_some_iff] at htold
    obtain ⟨hsame, _⟩ := htold
    injection hsame with hsame
    subst hsame
    obtain rfl := eq_read_of_half hhalf
    exact ⟨n, _, hat, hkind⟩
  · rw [told_of_not_over hat (Call.Stage.isOver_of_listens hlistens)] at htold
    cases htold

/-- **The next message is there, or a read has failed for good** on a stream that has been reset. It is reported by the
    next read whose turn it is, on a healthy stream, and on any other if nothing stands in its way. -/
theorem Recovering.next (hr : Recovering frames contents tail h)
    (hstream : h.arrived = frames.flatMap Frame.encode ++ tail) {content : Content}
    (hcontent : contents[(results h).length]? = some content) :
    (h.connection.socket.wire.ending.isCut = true ∧ Met h Call.Outcome.isFinal) ∨
      results h = (contents.take (results h).length).map report ∧
      ∃ unread, unread <:+ frames ∧ h.connection.socket.wire.incoming = unread.flatMap Frame.encode ++ tail ∧
        (h.connection.socket.wire.Healthy ∨ Clear h.connection.socket unread → ∀ {n},
          h.connection.grants .reading n = true → ∀ now,
            (h.connection.step now n).outcome? n = some (report content)) := by
  cases hr.course [] (by rw [List.append_nil]; exact hstream) (fun _ => rfl) with
  | beyond hbefore =>
    -- nothing is to come
    have hlength := hbefore.length_le
    rw [List.length_map] at hlength
    rw [List.getElem?_eq_none hlength] at hcontent
    cases hcontent
  | failed hcut hresult hfinal => exact Or.inl ⟨hcut, met_of_mem_results hr.turns hresult hfinal⟩
  | @coming front rest unread hcontents hbefore hframes hunread =>
    right
    have hlength : (results h).length = front.length := by rw [hbefore, List.length_map]
    rw [hlength, hcontents, List.getElem?_append_right (Nat.le_refl _), Nat.sub_self] at hcontent
    refine ⟨?_, unread, hframes, (List.append_nil _).symm.trans hunread.stream, fun hclear n hgrants now => ?_⟩
    · rw [hlength, hcontents, List.take_left, hbefore]
    · have hgets := nextText_gets hunread
      refine step_turn (heard content) hr.unclosed hgrants ?_ now
      generalize nextText h.connection.socket = result at hgets
      cases hgets with
      | content hrest _ _ =>
        rw [hrest] at hcontent
        cases hcontent
        rfl
      | waits hunread' _ hstarved =>
        rw [(hunread'.starved hstarved).1] at hcontent
        cases hcontent
      | beyond hnil =>
        rw [hnil] at hcontent
        cases hcontent
      | fails hbroken hlost _ =>
        rw [hlost (hclear.resolve_left hbroken) rfl] at hcontent
        cases hcontent

end next

end TextSocket.Connection
