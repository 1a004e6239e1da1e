import TextSocket.Proofs.Connection.Ending

/-!
# `Proofs.Connection.Reports` — the reads of a run as one reader

Reads take turns, and a read that is given up has taken nothing but what the socket keeps. So the reads together act as
one reader: each of them that has its turn asks the socket once, and what it is told stands behind everything that has
been reported before (`results_turn`). All other moves add nothing (`results_aside`).

What the reader says of the stream of its peer is a law (`Law`) that speaks of the bytes still on their way. It has to be
shown three times only: that writing keeps it, that one question keeps it, and that the peer keeps it when bytes go over
from the future to the stream. **Then every run keeps it in which nobody closes** (`Follows.run`).

## Contents

* `results` — what reads have reported, in their order;
* `Sound`, `Law` — streams, and laws of reading;
* `Follows`, `Follows.move`, `Follows.run` — what a run keeps.
-/

namespace TextSocket

namespace Connection

open Net (Wire)
open Socket (Keeps Lasts)

/-! ## Results -/

/-- **What reads have reported**, in the order in which they have obtained the reading half. Reads that have been
    given up report nothing. -/
def results (h : History) : List Call.Outcome := (h.order .reading).filterMap h.connection.told

section results

variable {h : History} {c' : Connection} {n : Nat} {call : Call} {stage stage' : Call.Stage}

theorem told_congr {c : Connection} {m : Nat} (hcall : c'.call? m = c.call? m) : c'.told m = c.told m := by
  unfold told outcome?
  rw [hcall]

/-- Calls that are where they were report what they have reported. -/
theorem filterMap_told {c : Connection} {order : List Nat} (hsame : ∀ m ∈ order, c'.call? m = c.call? m) :
    order.filterMap c'.told = order.filterMap c.told := by
  have hmap : order.map c'.told = order.map c.told := List.map_congr_left fun m hm => told_congr (hsame m hm)
  have hfilter := congrArg (List.filterMap fun told? => told?) hmap
  rw [List.filterMap_map, List.filterMap_map] at hfilter
  exact hfilter

/-- Whose turn it is has obtained the half last. -/
theorem Turns.front (ht : Turns h) (hat : h.connection.At n call stage) {half : Half}
    (hgrants : h.connection.grants half n = true) : ∃ front, h.granted n half = front ++ [n] ∧ n ∉ front ∧
      (h.order half = front ∨ h.order half = front ++ [n]) := by
  obtain ⟨front, hfront, hn, _⟩ := ht.turn_of_grants hat hgrants
  refine ⟨front, hfront, hn, ?_⟩
  by_cases hmem : n ∈ h.order half
  · rw [granted_of_mem hmem] at hfront
    exact Or.inr hfront
  · unfold History.granted at hfront
    split at hfront
    · exact Or.inl (List.append_cancel_right hfront)
    · exact Or.inr hfront

/-- A read that has obtained its half and goes on has its turn. -/
theorem Turns.grants_of_mem (ht : Turns h) (hclear : h.connection.signal = false) (hmem : n ∈ h.order .reading)
    (hat : h.connection.At n call stage) (hgoes : stage.isOver = false) :
    h.connection.grants .reading n = true := by
  obtain ⟨call', stage'', hat', hhalf, hturn⟩ := ht.turn hmem
  obtain ⟨rfl, rfl⟩ := hat.unique hat'
  rcases hturn with ⟨outcome, rfl⟩ | ⟨hlistens, hhead, _⟩
  · cases hgoes
  · refine (grants_iff hat).mpr ⟨?_, hhalf, hclear, Queue.serves_iff.mpr (Queue.head?_join hhead)⟩
    have hsuits := ht.coherent.suits hat
    cases call' with
    | write text => cases hhalf
    | close => cases hhalf
    | read =>
      cases stage'' with
      | waiting deadline => exact ⟨deadline, rfl⟩
      | flushing deadline => exact False.elim hsuits
      | _ => cases hlistens

/-- **The turn of a read adds what it reports**, if it reports anything. -/
theorem results_turn (ht : Turns h) (hat : h.connection.At n call stage)
    (hs : Shape h.connection n call stage stage' c') (hgrants : h.connection.grants .reading n = true) :
    results (h.moved n c') = results h ++ (c'.told n).toList := by
  obtain ⟨front, hfront, hn, horder⟩ := ht.front hat hgrants
  obtain ⟨⟨deadline, rfl⟩, _⟩ := (grants_iff hat).mp hgrants
  -- the read goes on until this turn, so it has reported nothing before
  have hbefore : results h = front.filterMap h.connection.told := by
    unfold results
    rcases horder with he | he
    · rw [he]
    · rw [he, List.filterMap_append, List.filterMap_cons_none (told_of_not_over hat rfl), List.filterMap_nil,
        List.append_nil]
  have hothers : front.filterMap c'.told = front.filterMap h.connection.told := by
    refine filterMap_told fun m hm => hs.at_other m ?_
    rintro rfl
    exact hn hm
  show (h.granted n .reading).filterMap c'.told = _
  rw [hfront, List.filterMap_append, hothers, hbefore]
  cases htold : c'.told n with
  | none => rw [List.filterMap_cons_none htold]; rfl
  | some outcome => rw [List.filterMap_cons_some htold]; rfl

/-- A move that is no turn of a read adds nothing. -/
theorem results_aside (ht : Turns h) (hclear : h.connection.signal = false) (hat : h.connection.At n call stage)
    (hs : Shape h.connection n call stage stage' c') (hno : h.connection.grants .reading n = false)
    (hsame : stage.isOver = true → c' = h.connection) : results (h.moved n c') = results h := by
  show (h.granted n .reading).filterMap c'.told = (h.order .reading).filterMap h.connection.told
  rw [granted_of_not_grants hno]
  cases hover : stage.isOver with
  | true => rw [hsame hover]
  | false =>
    refine filterMap_told fun m hm => hs.at_other m ?_
    rintro rfl
    rw [ht.grants_of_mem hclear hm hat hover] at hno
    cases hno

/-- A new call has obtained no half, and the others are where they were. -/
theorem results_enter (ht : Turns h) (call : Call) : results (h.after (.enter call)) = results h := by
  refine filterMap_told fun m hm => ?_
  obtain ⟨call', stage', hat, _⟩ := ht.turn hm
  show (h.connection.enter h.connection.calls.length call).call? m = _
  rw [call?_enter, show h.connection.call? m = _ from hat]
  rfl

end results

/-! ## Laws of reading -/

/-- A healthy stream, or one that the peer has reset, if it may do so. -/
def Sound (resets : Prop) (wire : Wire) : Prop := wire.Healthy ∨ resets ∧ wire.ending.isCut = true

/-- **A law of reading**: what is said of the results and of the socket, when some bytes are still on their way. -/
structure Law (resets : Prop) (P : Bytes → History → Prop) : Prop where
  /-- Writing keeps it. -/
  writes : ∀ {h h' : History} {future : Bytes}, P future h → Sound resets h.connection.socket.wire →
    Keeps h.connection.socket h'.connection.socket → Lasts h.connection.socket h'.connection.socket →
    results h' = results h → P future h'
  /-- One question keeps it, whose answer is reported. -/
  asks : ∀ {h h' : History} {future : Bytes}, P future h → Sound resets h.connection.socket.wire →
    h'.connection.socket.wire.ending.isCut = h.connection.socket.wire.ending.isCut →
    h'.connection.socket = (nextText h.connection.socket).2 →
    results h' = results h ++
      ((said (nextText h.connection.socket).1).filter fun outcome => !isTimeout outcome).toList → P future h'
  /-- The peer keeps it, when bytes go over from the future to the stream. -/
  arrives : ∀ {h h' : History} {future future' : Bytes} (change : Wire → Wire), P future h →
    h'.connection = h.connection.onWire change → results h' = results h →
    Sound resets (change h.connection.socket.wire) →
    (change h.connection.socket.wire).incoming ++ future' = h.connection.socket.wire.incoming ++ future →
    ((change h.connection.socket.wire).ending ≠ .open → future' = []) →
    ((change h.connection.socket.wire).ending = .open → h.connection.socket.wire.ending = .open) →
    (h.connection.socket.wire.ending.isCut = true → (change h.connection.socket.wire).ending.isCut = true) →
    P future' h'

/-- Whether an event is neither a call that closes nor a reset, unless the peer may reset the stream. -/
structure Event.IsAllowed (resets : Prop) (event : Event) : Prop where
  /-- No call closes. -/
  opens : event ≠ .enter .close
  /-- The peer resets the stream only if it may. -/
  resets : event = .peer .reset → resets

theorem Event.IsCalm.isAllowed {event : Event} (h : event.IsCalm) : event.IsAllowed False where
  opens := by
    rintro rfl
    exact h
  resets := by
    rintro rfl
    exact h

/-- **What a run keeps** in which nobody closes: the law holds, whatever is still on its way. When the stream is no
    longer open, nothing is. -/
structure Follows (resets : Prop) (stream : Bytes) (P : Bytes → History → Prop) (h : History) : Prop where
  /-- A half is obtained by one call after another. -/
  turns : Turns h
  /-- Nobody closes. -/
  unclosed : Unclosed h.connection
  /-- The stream is healthy, or the peer has reset it. -/
  sound : Sound resets h.connection.socket.wire
  /-- The law holds. -/
  law : ∀ future, h.arrived ++ future = stream → (h.connection.socket.wire.ending ≠ .open → future = []) → P future h

section follows

variable {resets : Prop} {stream : Bytes} {P : Bytes → History → Prop} {h : History}

theorem Follows.move (hf : Follows resets stream P h) (hlaw : Law resets P) {c' : Connection} {now n : Nat} {call : Call}
    {stage : Call.Stage} (hat : h.connection.At n call stage) (hmove : Move h.connection now n call stage c') :
    Follows resets stream P (h.moved n c') := by
  obtain ⟨stage', hs⟩ := hf.turns.coherent.shape hat hmove
  have hlistening := hmove.listening hf.turns.coherent hat hf.unclosed
  have hcut : c'.socket.wire.ending.isCut = h.connection.socket.wire.ending.isCut := hmove.advances.ending.isCut_eq
  have hopen : h.connection.socket.wire.ending = .open ∨ c'.socket.wire.ending ≠ .open := by
    rcases hmove.advances.ending with hsame | ⟨_, hdead⟩
    · rw [hsame]
      exact Decidable.em _
    · rw [hdead]
      exact Or.inr (by simp)
  constructor
  case turns => exact hf.turns.move hat hmove
  case unclosed => exact hf.unclosed.move hf.turns.coherent hat hmove
  case sound =>
    refine hf.sound.imp (fun hhealthy => ?_) (And.imp_right hcut.trans)
    cases hlistening with
    | aside hsocket _ _ _ => exact (hsocket.healthy hhealthy).1
    | turn _ hsocket _ =>
      show c'.socket.wire.Healthy
      rw [hsocket]
      exact (nextText_steady _ hhealthy).1
  case law =>
    intro future hstream hfinal
    -- a move opens no stream, so what is said of the future behind it has been said before
    have hp := hf.law future hstream fun hnot => hfinal (hopen.resolve_left hnot)
    cases hlistening with
    | aside hsocket hno hsame _ =>
      exact hlaw.writes hp hf.sound hsocket hmove.lasts
        (results_aside hf.turns hf.unclosed.signal hat hs hno hsame)
    | turn hgrants hsocket htold =>
      refine hlaw.asks hp hf.sound hcut hsocket ?_
      rw [results_turn hf.turns hat hs hgrants, htold]

/-- A stream stays sound, unless the peer resets it though it may not. -/
theorem Sound.peer {act : Net.PeerAct} {wire : Wire} (h : Sound resets wire) (hresets : act = .reset → resets) :
    Sound resets (act.apply wire) := by
  have haffects := act.affects wire
  by_cases hact : act = .reset
  · subst hact
    exact Or.inr ⟨hresets rfl, haffects.isCut_of_reset⟩
  · exact h.imp (haffects.healthy hact) (And.imp_right haffects.isCut)

/-- **What the peer does keeps the law.** It adds no result, and bytes that arrive go over from the future to the
    stream. -/
theorem Follows.peer (hf : Follows resets stream P h) (hlaw : Law resets P) {act : Net.PeerAct}
    (hresets : act = .reset → resets) : Follows resets stream P (h.after (.peer act)) := by
  have haffects := act.affects h.connection.socket.wire
  have hsound := hf.sound.peer hresets
  constructor
  case turns => exact hf.turns.other (by simp)
  case unclosed => exact hf.unclosed.onWire act.apply
  case sound => exact hsound
  case law =>
    intro future' hstream hfinal
    -- the future was what has arrived by this act, with the rest behind it
    have hp := hf.law (act.arriving h.connection.socket.wire ++ future') ?behind ?final
    · refine hlaw.arrives act.apply hp rfl rfl hsound ?_ hfinal haffects.open_before haffects.isCut
      rw [haffects.incoming_eq, List.append_assoc]
    case behind =>
      rw [← List.append_assoc]
      exact hstream
    case final =>
      intro hover
      rw [Net.PeerAct.arriving_of_over hover, List.nil_append]
      exact hfinal fun hopen => hover (haffects.open_before hopen)

theorem Follows.other (hf : Follows resets stream P h) (hlaw : Law resets P) {event : Event}
    (hallowed : event.IsAllowed resets) (hevent : ∀ now n, event ≠ .step now n) :
    Follows resets stream P (h.after event) := by
  have ht := hf.turns.other hevent
  cases event with
  | step now n => exact absurd rfl (hevent now n)
  | peer act => exact hf.peer hlaw fun he => hallowed.resets (by rw [he])
  | enter call =>
    have hc := hf.turns.coherent
    have hresults := results_enter hf.turns call
    constructor
    case turns => exact ht
    case unclosed => exact hf.unclosed.enter hc fun he => hallowed.opens (by rw [he])
    case sound => exact hf.sound
    case law =>
      intro future hstream hfinal
      exact hlaw.writes (hf.law future hstream hfinal) hf.sound (Keeps.refl _) (Lasts.refl _) hresults

/-- **Every run keeps the law in which nobody closes.** -/
theorem Follows.run (hf : Follows resets stream P h) (hlaw : Law resets P) {events : List Event}
    (hallowed : ∀ event ∈ events, event.IsAllowed resets) : Follows resets stream P (h.run events) :=
  History.run_of_move (fun hf hat hmove => hf.move hlaw hat hmove)
    (fun hf hallowed hevent => hf.other hlaw hallowed hevent) hf hallowed

/-- At the start nobody closes, and a law that holds there is kept from then on. -/
theorem follows_start (id : ConnectionId) (config : Config) (role : Socket.Role) {wire : Wire} (threshold : Nat)
    (keys : Nat → MaskKey) (hsound : Sound resets wire)
    (hlaw : ∀ future, wire.incoming ++ future = stream → (wire.ending ≠ .open → future = []) →
      P future (.start (ofSocket id config (.ofWire role wire threshold keys)))) :
    Follows resets stream P (.start (ofSocket id config (.ofWire role wire threshold keys))) where
  turns := turns_run id config _ []
  unclosed := ⟨fun hat => (by cases hat), rfl⟩
  sound := hsound
  law := hlaw

end follows

end Connection

end TextSocket
