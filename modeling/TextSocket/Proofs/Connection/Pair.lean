import TextSocket.Proofs.Connection.Images
import TextSocket.Proofs.Connection.Sending

/-!
# `Proofs.Connection.Pair` — two connections over one stream

Two connections are the ends of one stream, which loses nothing: what one end has put on it arrives at the other one,
some bytes at a time. Calls at both ends take steps in any order, and nobody closes. Then each direction is a queue of
texts (`Delivers`).

Neither end is the first to close, so neither ever is closed: as long as one end is not, it writes texts and pongs
only, and these do not close the other one (`Linked.active`). What arrives at an end are therefore whole frames of the
other end up to the last one, and the reads make of them what `Proofs.Connection.Images` says.

## Contents

* `Pair`, `Pair.Event`, `Pair.run` — two ends and what happens to them;
* `Linked`, `Linked.run` — the invariant;
* `written`, `Sending.authors_begin` — the texts on the stream are those that have been written;
* `Delivers`, `delivers_run` — each direction is a queue of texts.
-/

namespace TextSocket.Connection

open Socket (Fits Role Outbound)

/-! ## Pairs -/

/-- Two connections over one stream. -/
structure Pair where
  /-- The connection at each end, with what has been noted of its past. -/
  ends : Role → History
  /-- How many bytes of each end have arrived at the other one, with those from before. -/
  carried : Role → Nat

namespace Pair

/-- Something that happens to two connections. -/
inductive Event where
  /-- A call is made at an end. -/
  | enter (role : Role) (call : Call)
  /-- A call at an end takes a step, at a time. -/
  | step (role : Role) (now number : Nat)
  /-- The stream makes room for further bytes of an end. -/
  | widen (role : Role) (n : Nat)
  /-- The stream carries the next bytes of an end to the other one, `n` at most. -/
  | carry (role : Role) (n : Nat)

/-- The bytes that an end has put on the stream. -/
def outgoing (p : Pair) (role : Role) : Bytes := (p.ends role).connection.socket.wire.outgoing

/-- Something happens to the connection at one end. -/
def act (p : Pair) (role : Role) (event : Connection.Event) : Pair :=
  { p with ends := fun other => if other = role then (p.ends role).after event else p.ends other }

/-- The next bytes of an end that have not arrived, `n` at most. -/
def next (p : Pair) (role : Role) (n : Nat) : Bytes := ((p.outgoing role).drop (p.carried role)).take n

/-- An event happens. -/
def after (p : Pair) : Event → Pair
  | .enter role call => p.act role (.enter call)
  | .step role now number => p.act role (.step now number)
  | .widen role n => p.act role (.peer (.widen n))
  | .carry role n =>
    { p.act role.other (.peer (.deliver (p.next role n))) with
      carried := fun other =>
        if other = role then p.carried role + (p.next role n).length else p.carried other }

/-- A run: one event after another. -/
def run (p : Pair) (events : List Event) : Pair := events.foldl after p

/-- Two connections over a stream on which there are only the bytes from before. -/
def start (id : Role → ConnectionId) (config : Role → Config) (wire : Role → Net.Wire) (threshold : Role → Nat)
    (keys : Role → Nat → MaskKey) : Pair where
  ends role := .start (ofSocket (id role) (config role) (.ofWire role (wire role) (threshold role) (keys role)))
  carried role := (wire role).outgoing.length

theorem ends_act_self (p : Pair) (role : Role) (event : Connection.Event) :
    (p.act role event).ends role = (p.ends role).after event :=
  if_pos rfl

theorem ends_act_other (p : Pair) {role other : Role} (hne : other ≠ role) (event : Connection.Event) :
    (p.act role event).ends other = p.ends other :=
  if_neg hne

end Pair

theorem other_ne (role : Role) : role.other ≠ role := by
  cases role <;> simp [Role.other]

theorem other_other (role : Role) : role.other.other = role := by
  cases role <;> rfl

/-- What holds at an end and at the other one holds at both. -/
theorem both_ends {P : Role → Prop} (role : Role) (hself : P role) (hother : P role.other) (end' : Role) :
    P end' := by
  cases role <;> cases end' <;> assumption

/-! ## What an end does to the stream -/

/-- Whether an event is one of an end itself: a call is made, though none that closes, or takes a step, or there is
    more room. -/
def Event.IsOwn : Event → Prop
  | .enter call => call ≠ .close
  | .step _ _ | .peer (.widen _) => True
  | _ => False

theorem Event.IsOwn.isCalm {event : Event} (h : event.IsOwn) : event.IsCalm := by
  cases event with
  | enter call =>
    cases call with
    | close => exact absurd rfl h
    | read => trivial
    | write text => trivial
  | step now n => trivial
  | peer act =>
    cases act with
    | reset => exact h
    | _ => trivial

/-- **An end goes on**: what it has put on the stream stays there, and nothing has arrived. -/
structure Onward (h h' : History) : Prop where
  /-- What is on the stream stays there. -/
  outgoing : h.connection.socket.wire.outgoing <+: h'.connection.socket.wire.outgoing
  /-- The peer has not ended its stream. -/
  ending : h'.connection.socket.wire.ending = h.connection.socket.wire.ending
  /-- Nothing has arrived. -/
  arrived : h'.arrived = h.arrived

theorem Onward.refl (h : History) : Onward h h := ⟨List.prefix_rfl, rfl, rfl⟩

theorem Onward.trans {h h' h'' : History} (k : Onward h h') (k' : Onward h' h'') : Onward h h'' :=
  ⟨k.outgoing.trans k'.outgoing, k'.ending.trans k.ending, k'.arrived.trans k.arrived⟩

section onward

variable {h : History} {frames : List Frame} {contents : List Socket.Content} {tail : Bytes}

theorem Receiving.onward_move {c' : Connection} {now n : Nat} {call : Call} {stage : Call.Stage}
    (hr : Receiving frames contents tail h) (hmove : Move h.connection now n call stage c') :
    Onward h (h.moved n c') := by
  refine ⟨hmove.advances.onWire, ?_, rfl⟩
  -- there is no reset that could be noticed
  rcases hmove.advances.ending with hsame | ⟨hreset, _⟩
  · exact hsame
  · rcases hr.healthy.ending with hopen | hended
    · rw [hopen] at hreset
      cases hreset
    · rw [hended] at hreset
      cases hreset

theorem Receiving.onward (hr : Receiving frames contents tail h) {event : Event} (hown : event.IsOwn) :
    Onward h (h.after event) := by
  have hrun : Receiving frames contents tail (h.run [event]) ∧ Onward h (h.run [event]) := by
    refine History.run_of_move (P := fun h' => Receiving frames contents tail h' ∧ Onward h h')
      (Q := Event.IsOwn) ?_ ?_ ⟨hr, Onward.refl h⟩ (by simpa using hown)
    · rintro h' now n call stage c' ⟨hr', honward⟩ hat hmove
      exact ⟨hr'.move hat hmove, honward.trans (hr'.onward_move hmove)⟩
    · rintro h' event' ⟨hr', honward⟩ hown' hevent
      refine ⟨hr'.other hown'.isCalm hevent, honward.trans ?_⟩
      cases event' with
      | step now n => exact absurd rfl (hevent now n)
      | enter call => exact ⟨List.prefix_rfl, rfl, rfl⟩
      | peer act =>
        cases act with
        | widen n => exact ⟨List.prefix_rfl, rfl, List.append_nil _⟩
        | _ => exact False.elim hown'
  exact hrun.2

end onward

/-! ## The invariant -/

/-- **Two ends that are linked.** Behind the bytes `base` from before, what has arrived at one end is what the other
    end has put on the stream first. -/
structure Linked (base : Role → Bytes) (p : Pair) : Prop where
  /-- Each end writes whole frames. -/
  sends : ∀ role, SendsSafely (base role) role (p.ends role)
  /-- Each end reads as the law says. -/
  attends : ∀ role, Attentive role (p.ends role)
  /-- Neither end has ended its stream. -/
  opened : ∀ role, (p.ends role).connection.socket.wire.ending = .open
  /-- Nobody closes. -/
  active : ∀ role, (p.ends role).connection.socket.phase = .active
  /-- What has arrived at one end comes from the other one. -/
  arrived : ∀ role, ∃ rest, base role ++ (p.ends role.other).arrived ++ rest = p.outgoing role
  /-- This is how much it is. -/
  carried : ∀ role, p.carried role = (base role ++ (p.ends role.other).arrived).length

section linked

variable {base : Role → Bytes} {p : Pair} {role : Role}

/-- The frames that an end has written which nobody closes. -/
theorem SendsSafely.plain {h : History} {base : Bytes} (hsends : SendsSafely base role h)
    (hactive : h.connection.socket.phase = .active) : ∃ posts owner, Sending base role h posts owner ∧
      ∀ post ∈ posts, Plain h.connection.textOf role post := by
  obtain ⟨_, _, _, posts, owner, hsend⟩ := hsends
  refine ⟨posts, owner, hsend, fun post hmem => ?_⟩
  have hout := hsend.ledger.outbound
  have hframe : post.frame ∈ posts.map Post.frame := List.mem_map_of_mem hmem
  constructor
  · exact hout.proper _ (List.mem_append_left _ hframe)
  · exact hout.opening hactive _ (List.mem_append_left _ hframe)
  · rw [hout.masked _ hframe, hsend.role]
  · exact hsend.ledger.authored post hmem
  · exact hsend.ledger.silent post hmem

/-- What arrives are the frames of the other end. -/
theorem Sending.stream {h h' : History} {base : Bytes} {posts : List Post} {owner : Option Nat}
    (hsend : Sending base role h posts owner)
    (harrived : ∃ rest, base ++ h'.arrived ++ rest = h.connection.socket.wire.outgoing) :
    ∃ future, h'.arrived ++ future = bytesOf posts := by
  obtain ⟨rest, hrest⟩ := harrived
  have hwritten := hsend.ledger.outbound.written
  unfold Socket.written at hwritten
  rw [← bytesOf_eq, ← hrest, List.append_assoc, List.append_assoc] at hwritten
  exact ⟨rest ++ h.connection.socket.outbox, List.append_cancel_left hwritten⟩

/-- **An end is not closed unless the other one closes first.** -/
theorem SendsSafely.keeps_active {h h' : History} {base : Bytes} (hsends : SendsSafely base role.other h)
    (hactive : h.connection.socket.phase = .active) (hattends : Attentive role h')
    (hopen : h'.connection.socket.wire.ending = .open)
    (harrived : ∃ rest, base ++ h'.arrived ++ rest = h.connection.socket.wire.outgoing) :
    h'.connection.socket.phase = .active := by
  obtain ⟨posts, owner, hsend, hplain⟩ := hsends.plain hactive
  obtain ⟨future, hfuture⟩ := hsend.stream harrived
  rw [← other_other role] at hattends
  exact hattends.active hopen hplain hfuture

/-- A change at one end: the other end stays as it is, so it is enough to look at that end. -/
theorem Linked.change {p' : Pair} (hl : Linked base p) (role : Role) (hother : p'.ends role.other = p.ends role.other)
    (hsends : SendsSafely (base role) role (p'.ends role)) (hattends : Attentive role (p'.ends role))
    (hopen : (p'.ends role).connection.socket.wire.ending = .open)
    (harrived : ∀ end', ∃ rest, base end' ++ (p'.ends end'.other).arrived ++ rest = p'.outgoing end')
    (hcarried : ∀ end', p'.carried end' = (base end' ++ (p'.ends end'.other).arrived).length) : Linked base p' := by
  constructor
  case sends =>
    refine both_ends role hsends ?_
    rw [hother]
    exact hl.sends role.other
  case attends =>
    refine both_ends role hattends ?_
    rw [hother]
    exact hl.attends role.other
  case opened =>
    refine both_ends role hopen ?_
    rw [hother]
    exact hl.opened role.other
  case active =>
    refine both_ends role ?_ ?_
    · -- what arrives here comes from an end that nobody closes
      have hfrom := harrived role.other
      unfold Pair.outgoing at hfrom
      rw [other_other, hother] at hfrom
      exact (hl.sends role.other).keeps_active (hl.active role.other) hattends hopen hfrom
    · rw [hother]
      exact hl.active role.other
  case arrived => exact harrived
  case carried => exact hcarried

/-- **What an end does by itself keeps the ends linked.** -/
theorem Linked.act (hl : Linked base p) {event : Connection.Event} (hown : event.IsOwn)
    (hfits : ∀ text, event = .enter (.write text) → Fits text) : Linked base (p.act role event) := by
  have hself := p.ends_act_self role event
  have hother := p.ends_act_other (other_ne role) event
  have honward := (hl.attends role [] [] [] (fun frame hmem => by cases hmem) .done).onward hown
  refine hl.change role hother ?sends ?attends ?opened (both_ends role ?arrivedOut ?arrivedIn)
    (both_ends role ?carriedOut ?carriedIn)
  case sends =>
    rw [hself]
    have hrun : SendsSafely (base role) role ((p.ends role).run [event]) :=
      (hl.sends role).run fun text hmem => hfits text (List.mem_singleton.mp hmem).symm
    exact hrun
  case attends =>
    intro frames contents tail hlegible hcarries
    rw [hself]
    have hrun : Receiving frames contents tail ((p.ends role).run [event]) :=
      (hl.attends role frames contents tail hlegible hcarries).run (by simpa using hown.isCalm)
    exact hrun
  case opened =>
    rw [hself]
    exact honward.ending.trans (hl.opened role)
  case arrivedOut =>
    -- this end may have put more on the stream
    obtain ⟨rest, hrest⟩ := hl.arrived role
    obtain ⟨more, hmore⟩ := honward.outgoing
    refine ⟨rest ++ more, ?_⟩
    unfold Pair.outgoing at hrest ⊢
    rw [hself, hother, ← hmore, ← hrest, List.append_assoc (base role ++ _)]
  case arrivedIn =>
    obtain ⟨rest, hrest⟩ := hl.arrived role.other
    refine ⟨rest, ?_⟩
    unfold Pair.outgoing at hrest ⊢
    rw [other_other] at hrest ⊢
    rw [hself, hother, honward.arrived, hrest]
  case carriedOut =>
    rw [hother]
    exact hl.carried role
  case carriedIn =>
    have hcarried := hl.carried role.other
    rw [other_other] at hcarried ⊢
    rw [hself, honward.arrived]
    exact hcarried

/-- Bytes that arrive change nothing else. -/
theorem after_deliver {h : History} (hopen : h.connection.socket.wire.ending = .open) (bytes : Bytes) :
    (h.after (.peer (.deliver bytes))).connection.socket.wire.outgoing = h.connection.socket.wire.outgoing ∧
      (h.after (.peer (.deliver bytes))).connection.socket.wire.ending = .open ∧
      (h.after (.peer (.deliver bytes))).arrived = h.arrived ++ bytes := by
  have hwire := Net.Wire.deliver_of_open hopen bytes
  refine ⟨?_, ?_, ?_⟩
  · show (h.connection.socket.wire.deliver bytes).outgoing = _
    rw [hwire]
  · show (h.connection.socket.wire.deliver bytes).ending = _
    rw [hwire]
    exact hopen
  · show h.arrived ++ (if _ then bytes else []) = _
    rw [if_pos hopen]

/-- **What the stream does keeps the ends linked.** -/
theorem Linked.carry (hl : Linked base p) (n : Nat) : Linked base (p.after (.carry role n)) := by
  obtain ⟨rest, hrest⟩ := hl.arrived role
  have hnext : p.next role n = rest.take n := by
    unfold Pair.next
    rw [← hrest, hl.carried role, List.drop_left]
  have hself : (p.after (.carry role n)).ends role.other =
      (p.ends role.other).after (.peer (.deliver (rest.take n))) := by
    rw [← hnext]
    exact p.ends_act_self role.other _
  have hother : (p.after (.carry role n)).ends role = p.ends role := p.ends_act_other (other_ne role).symm _
  obtain ⟨houtgoing, hopen, harrived⟩ := after_deliver (hl.opened role.other) (rest.take n)
  refine hl.change role.other ?unchanged ?sends ?attends ?opened (both_ends role ?arrivedOut ?arrivedIn)
    (both_ends role ?carriedOut ?carriedIn)
  case unchanged =>
    rw [other_other]
    exact hother
  case sends =>
    rw [hself]
    have hrun : SendsSafely (base role.other) role.other ((p.ends role.other).run [.peer (.deliver (rest.take n))]) :=
      (hl.sends role.other).run fun text hmem => by simp at hmem
    exact hrun
  case attends =>
    intro frames contents tail hlegible hcarries
    rw [hself]
    have hrun : Receiving frames contents tail ((p.ends role.other).run [.peer (.deliver (rest.take n))]) :=
      (hl.attends role.other frames contents tail hlegible hcarries).run (by simp [Event.IsCalm])
    exact hrun
  case opened =>
    rw [hself]
    exact hopen
  case arrivedOut =>
    refine ⟨rest.drop n, ?_⟩
    unfold Pair.outgoing at hrest ⊢
    rw [hself, hother, harrived, ← hrest]
    simp only [List.append_assoc, List.take_append_drop]
  case arrivedIn =>
    obtain ⟨more, hmore⟩ := hl.arrived role.other
    refine ⟨more, ?_⟩
    unfold Pair.outgoing at hmore ⊢
    rw [other_other] at hmore ⊢
    rw [hself, hother, houtgoing]
    exact hmore
  case carriedOut =>
    have hcarried := hl.carried role
    show (if role = role then p.carried role + (p.next role n).length else p.carried role) = _
    rw [if_pos rfl, hself, harrived, hnext, hcarried, ← List.append_assoc, ← List.length_append]
  case carriedIn =>
    have hcarried := hl.carried role.other
    rw [other_other] at hcarried ⊢
    show (if role.other = role then p.carried role + (p.next role n).length else p.carried role.other) = _
    rw [if_neg (other_ne role), hother]
    exact hcarried

theorem Linked.after (hl : Linked base p) {event : Pair.Event} (hclose : ∀ role, event ≠ .enter role .close)
    (hfits : ∀ role text, event = .enter role (.write text) → Fits text) : Linked base (p.after event) := by
  cases event with
  | enter role call =>
    have hown : Event.IsOwn (.enter call) := by
      rintro rfl
      exact hclose role rfl
    refine hl.act hown fun text he => hfits role text ?_
    cases he
    rfl
  | step role now number =>
    have hown : Event.IsOwn (.step now number) := trivial
    exact hl.act hown fun text he => by cases he
  | widen role n =>
    have hown : Event.IsOwn (.peer (.widen n)) := trivial
    exact hl.act hown fun text he => by cases he
  | carry role n => exact hl.carry n

/-- **The ends stay linked** as long as nobody closes. -/
theorem Linked.run (hl : Linked base p) {events : List Pair.Event} (hclose : ∀ role, .enter role .close ∉ events)
    (hfits : ∀ role text, .enter role (.write text) ∈ events → Fits text) : Linked base (p.run events) := by
  induction events generalizing p with
  | nil => exact hl
  | cons event events ih =>
    refine ih (p := p.after event) (hl.after ?_ ?_) ?_ ?_
    · rintro role rfl
      exact hclose role List.mem_cons_self
    · rintro role text rfl
      exact hfits role text List.mem_cons_self
    · exact fun role hmem => hclose role (List.mem_cons_of_mem _ hmem)
    · exact fun role text hmem => hfits role text (List.mem_cons_of_mem _ hmem)

/-- At the start nothing has been written or has arrived. -/
theorem linked_start (id : Role → ConnectionId) (config : Role → Config) {wire : Role → Net.Wire}
    (threshold : Role → Nat) (keys : Role → Nat → MaskKey) (hopen : ∀ role, (wire role).ending = .open)
    (hshut : ∀ role, (wire role).shut = false) (hfresh : ∀ role, (wire role).incoming = []) :
    Linked (fun role => (wire role).outgoing) (.start id config wire threshold keys) where
  sends role := sends_start (id role) (config role) role (wire role) (threshold role) (keys role)
  attends role _ _ tail hlegible hcarries :=
    receiving_start (id role) (config role) role (threshold role) (keys role) (hopen role) (hshut role) hlegible
      hcarries tail
  opened := hopen
  active _ := rfl
  arrived role := by
    refine ⟨[], ?_⟩
    show (wire role).outgoing ++ (wire role.other).incoming ++ [] = (wire role).outgoing
    rw [hfresh, List.append_nil, List.append_nil]
  carried role := by
    show (wire role).outgoing.length = ((wire role).outgoing ++ (wire role.other).incoming).length
    rw [hfresh, List.append_nil]

end linked

/-! ## What has been written -/

/-- The texts of the writes, in the order in which they have obtained the writing half. -/
def written (h : History) : List String := (h.order .writing).filterMap h.connection.textOf

/-- A part of a list without gaps, except perhaps for the last element, is a part from its front. -/
theorem begins_of_sublist {α : Type} {part whole : List α} (hpart : part.Sublist whole) (hnodup : whole.Nodup)
    (hall : ∀ a ∈ whole, a ∈ part ∨ whole.getLast? = some a) : part <+: whole := by
  induction hpart with
  | slnil => exact List.prefix_rfl
  | @cons part rest a hrest ih =>
    -- the first element is left out, so it is the last one
    have ha : a ∉ rest := (List.nodup_cons.mp hnodup).1
    cases rest with
    | nil =>
      rw [List.sublist_nil.mp hrest]
      exact List.nil_prefix
    | cons b rest =>
      rcases hall a List.mem_cons_self with hmem | hlast
      · exact absurd (hrest.subset hmem) ha
      · rw [List.getLast?_cons_cons] at hlast
        exact absurd (List.mem_of_getLast? hlast) ha
  | @cons_cons part rest a hrest ih =>
    obtain ⟨ha, hnodup⟩ := List.nodup_cons.mp hnodup
    refine List.prefix_cons_inj a |>.mpr (ih hnodup fun b hb => ?_)
    rcases hall b (List.mem_cons_of_mem _ hb) with hmem | hlast
    · rcases List.mem_cons.mp hmem with rfl | hmem
      · exact absurd hb ha
      · exact Or.inl hmem
    · cases rest with
      | nil => cases hb
      | cons c rest =>
        rw [List.getLast?_cons_cons] at hlast
        exact Or.inr hlast

/-- Two parts from the front that end with the same element are one. -/
theorem eq_of_last {α : Type} {front front' whole : List α} {a : α} (hnodup : whole.Nodup)
    (hfront : front ++ [a] <+: whole) (hfront' : front' ++ [a] <+: whole) : front ++ [a] = front' ++ [a] := by
  -- the shorter one would have the element before its end
  have shorter : ∀ {short long : List α}, short ++ [a] <+: long ++ [a] → long ++ [a] <+: whole →
      short ++ [a] = long ++ [a] := by
    intro short long hshort hlong
    rcases List.prefix_concat_iff.mp hshort with heq | hbefore
    · exact heq
    · have hmem : a ∈ long := hbefore.subset (List.mem_append_right _ (List.mem_singleton_self a))
      have hdistinct := List.nodup_append.mp (hlong.sublist.nodup hnodup)
      exact absurd rfl (hdistinct.2.2 a hmem a (List.mem_singleton_self a))
  rcases List.prefix_or_prefix_of_prefix hfront hfront' with hle | hle
  · exact shorter hle hfront'
  · exact (shorter hle hfront).symm

theorem Delivered.mem_authors {base : Bytes} {posts : List Post} {outgoing : Bytes} {n : Nat}
    (hd : Delivered base posts outgoing n) : n ∈ authors posts := by
  obtain ⟨front, post, back, rfl, hauthor, _⟩ := hd
  exact List.mem_filterMap.mpr ⟨post, List.mem_append_right _ List.mem_cons_self, hauthor⟩

section written

variable {h : History} {base : Bytes} {role : Role} {posts : List Post} {owner : Option Nat} {n : Nat}

/-- A write that has done its work has its frame on the stream, unless the stream is dead. -/
theorem Sending.delivered (hsend : Sending base role h posts owner)
    (hopen : h.connection.socket.wire.ending = .open) {text : String}
    (hat : h.connection.At n (.write text) (.finished .done)) :
    Delivered base posts h.connection.socket.wire.outgoing n := by
  rcases hsend.done hat with hdelivered | hdead
  · exact hdelivered
  · rw [hopen] at hdead
    cases hdead

/-- A write that has had its turn and is over has its frame on the stream, when no write has failed. -/
theorem Sending.delivered_of_turn (hsend : Sending base role h posts owner)
    (hopen : h.connection.socket.wire.ending = .open)
    (hok : ∀ n text outcome, h.connection.At n (.write text) (.finished outcome) → outcome = .done) {call : Call}
    {outcome : Call.Outcome} (hat : h.connection.At n call (.finished outcome)) (hhalf : call.half? = some .writing) :
    Delivered base posts h.connection.socket.wire.outgoing n := by
  cases call with
  | read => cases hhalf
  | close => cases hhalf
  | write text =>
    obtain rfl := hok n text outcome hat
    exact hsend.delivered hopen hat

/-- **The texts on the stream are the first ones that have been written**, when no write has failed. -/
theorem Sending.authors_begin (hsend : Sending base role h posts owner) (ht : Turns h)
    (hopen : h.connection.socket.wire.ending = .open)
    (hok : ∀ n text outcome, h.connection.At n (.write text) (.finished outcome) → outcome = .done) :
    authors posts <+: h.order .writing := by
  have hpart : (authors posts).Sublist (h.order .writing) :=
    (List.sublist_append_left _ owner.toList).trans hsend.ordered
  -- whoever has had its turn is over, and has its frame there; only the last one may still be writing
  refine begins_of_sublist hpart (ht.nodup .writing) fun n hmem => ?_
  obtain ⟨call, stage, hat, hhalf, ⟨outcome, rfl⟩ | ⟨_, _, hlast⟩⟩ := ht.turn hmem
  · exact Or.inl (hsend.delivered_of_turn hopen hok hat hhalf).mem_authors
  · exact Or.inr hlast

/-- **The texts of writes that have done their work are on the stream**, if they are the first ones. -/
theorem Sending.authors_front (hsend : Sending base role h posts owner) (ht : Turns h)
    (hopen : h.connection.socket.wire.ending = .open) (hbegin : authors posts <+: h.order .writing)
    (hbase : base <+: h.connection.socket.wire.outgoing) {first : List Nat} (hfirst : first <+: h.order .writing)
    (hdone : ∀ n ∈ first, ∃ text, h.connection.At n (.write text) (.finished .done)) :
    ∃ front back, posts = front ++ back ∧ authors front = first ∧
      base ++ bytesOf front <+: h.connection.socket.wire.outgoing := by
  cases hlast : first.getLast? with
  | none =>
    obtain rfl : first = [] := List.getLast?_eq_none_iff.mp hlast
    refine ⟨[], posts, rfl, rfl, ?_⟩
    rw [show bytesOf [] = [] from rfl, List.append_nil]
    exact hbase
  | some n =>
    obtain ⟨before, rfl⟩ := List.getLast?_eq_some_iff.mp hlast
    obtain ⟨text, hat⟩ := hdone n (List.mem_append_right _ (List.mem_singleton_self n))
    -- with the frame of the last one, all the frames before it are on the stream
    obtain ⟨front, post, back, hposts, hauthor, hbytes⟩ := hsend.delivered hopen hat
    have hauthors : authors (front ++ [post]) = authors front ++ [n] := by
      rw [authors_append]
      show _ ++ [post].filterMap Post.author = _
      rw [List.filterMap_cons_some hauthor]
      rfl
    have hfront : front ++ [post] <+: posts := ⟨back, by rw [hposts, List.append_assoc]; rfl⟩
    have hpart : authors front ++ [n] <+: h.order .writing := by
      rw [← hauthors]
      exact (hfront.filterMap _).trans hbegin
    obtain ⟨back', hback'⟩ := hfront
    have hsame := eq_of_last (ht.nodup .writing) hpart hfirst
    exact ⟨front ++ [post], back', hback'.symm, hauthors.trans hsame, hbytes⟩

/-- What comes of a text depends on the writes up to it. -/
theorem image_take {texts : Nat → Option String} {order : List Nat} {k : Nat}
    (hsome : ∀ n ∈ order.take (k + 1), (texts n).isSome) :
    image ((order.take (k + 1)).filterMap texts) k = image (order.filterMap texts) k := by
  by_cases hk : k < order.length
  · have hlength := List.filterMap_length_eq_length.mpr hsome
    rw [List.length_take] at hlength
    have hsplit : order.filterMap texts =
        (order.take (k + 1)).filterMap texts ++ (order.drop (k + 1)).filterMap texts := by
      rw [← List.filterMap_append, List.take_append_drop]
    rw [hsplit, image_left (by omega)]
  · rw [List.take_of_length_le (by omega)]

end written

/-! ## Queues of texts -/

/-- **From an end to the other one**, a pair is a queue of texts. -/
structure Delivers (p : Pair) (role : Role) : Prop where
  /-- The reads report nothing but what they make of the texts, one result for each text, in order. -/
  inOrder : ∀ i outcome, (results (p.ends role.other))[i]? = some outcome →
    image (written (p.ends role)) i = some outcome
  /-- A read that has not obtained the reading half reports nothing. -/
  waited : ∀ {n outcome}, (p.ends role.other).connection.At n .read (.finished outcome) →
    n ∈ (p.ends role.other).order .reading ∨ isTimeout outcome = true
  /-- The text of a write that has done its work is among the texts. -/
  counted : ∀ {n text}, (p.ends role).connection.At n (.write text) (.finished .done) →
    n ∈ (p.ends role).order .writing
  /-- When the writes up to the next text have done their work and everything has arrived, the next read whose turn it
      is reports what reads make of that text, whatever has become of the reads before. -/
  next : (∀ m ∈ ((p.ends role).order .writing).take ((results (p.ends role.other)).length + 1),
      ∃ text, (p.ends role).connection.At m (.write text) (.finished .done)) →
    p.carried role = (p.outgoing role).length →
    ∀ {n}, (p.ends role.other).connection.grants .reading n = true →
    ∀ outcome, image (written (p.ends role)) (results (p.ends role.other)).length = some outcome →
    ∀ now, ((p.ends role.other).connection.step now n).outcome? n = some outcome

theorem Linked.delivers {base : Role → Bytes} {p : Pair} (hl : Linked base p) {role : Role}
    (hok : ∀ n text outcome, (p.ends role).connection.At n (.write text) (.finished outcome) → outcome = .done) :
    Delivers p role := by
  have hopen := hl.opened role
  have hopen' := hl.opened role.other
  have hattends := hl.attends role.other
  have ht := (hl.sends role).turns
  obtain ⟨posts, owner, hsend, hplain⟩ := (hl.sends role).plain (hl.active role)
  constructor
  case inOrder =>
    intro i outcome hresult
    obtain ⟨future, hfuture⟩ := hsend.stream (hl.arrived role)
    have himage := results_image hattends hopen' hplain hfuture hresult
    exact image_mono ((hsend.authors_begin ht hopen hok).filterMap _) himage
  case waited => exact (hattends [] [] [] (fun frame hmem => by cases hmem) .done).waited
  case counted =>
    intro n text hat
    have hmem := (hsend.delivered hopen hat).mem_authors
    exact hsend.ordered.subset (List.mem_append_left _ hmem)
  case next =>
    intro hdone hall n hgrants outcome himage now
    obtain ⟨rest, hrest⟩ := hl.arrived role
    -- what has arrived is all that is on the stream
    have heverything : base role ++ (p.ends role.other).arrived = p.outgoing role := by
      have hlength := hl.carried role
      rw [hall, ← hrest] at hlength
      simp only [List.length_append] at hlength
      have hnil : rest = [] := List.length_eq_zero_iff.mp (by omega)
      rw [hnil, List.append_nil] at hrest
      exact hrest
    have hbase : base role <+: p.outgoing role := ⟨_, heverything⟩
    have hbegin := hsend.authors_begin ht hopen hok
    obtain ⟨front, back, hposts, hauthors, more, hmore⟩ :=
      hsend.authors_front ht hopen hbegin hbase (List.take_prefix _ _) hdone
    have hfront : ∀ post ∈ front, Plain (p.ends role).connection.textOf role post := by
      intro post hmem
      exact hplain post (hposts ▸ List.mem_append_left _ hmem)
    have hstream : (p.ends role.other).arrived = bytesOf front ++ more := by
      have hsame := heverything.trans hmore.symm
      rw [List.append_assoc] at hsame
      exact List.append_cancel_left hsame
    refine step_image hattends hopen' hfront hstream hgrants ?_ now
    unfold textsIn
    rw [hauthors, image_take]
    · exact himage
    · intro m hmem
      obtain ⟨text, hat⟩ := hdone m hmem
      rw [textOf_of_at hat]
      rfl

/-- **A pair is two queues of texts**, one in each direction, whatever the schedule at both ends and however the bytes
    are cut. -/
theorem delivers_run (id : Role → ConnectionId) (config : Role → Config) {wire : Role → Net.Wire}
    (threshold : Role → Nat) (keys : Role → Nat → MaskKey) (hopen : ∀ role, (wire role).ending = .open)
    (hshut : ∀ role, (wire role).shut = false) (hfresh : ∀ role, (wire role).incoming = [])
    {events : List Pair.Event} (hclose : ∀ role, .enter role .close ∉ events)
    (hfits : ∀ role text, .enter role (.write text) ∈ events → Fits text) {p : Pair}
    (hrun : p = (Pair.start id config wire threshold keys).run events) {role : Role}
    (hok : ∀ n text outcome, (p.ends role).connection.At n (.write text) (.finished outcome) → outcome = .done) :
    Delivers p role := by
  have hlinked := (linked_start id config threshold keys hopen hshut hfresh).run hclose hfits
  rw [← hrun] at hlinked
  exact hlinked.delivers hok

/-- A client writes two texts, the second one empty. Its bytes arrive at the server in two pieces; the read that meets
    the first one is given up. -/
theorem delivers_run_of_cut :
    ∃ p, p = (Pair.start (fun _ => .random 0) (fun _ => .default) (fun _ => .fresh) (fun _ => 0)
        fun _ _ => ⟨1, 2, 3, 4⟩).run
        [.enter .client (.write "hi"), .step .client 0 0, .step .client 0 0, .step .client 0 0, .enter .server .read,
          .step .server 0 0, .step .server 0 0, .carry .client 3, .step .server 60000000000 0,
          .enter .client (.write ""), .step .client 0 1, .step .client 0 1, .step .client 0 1, .enter .server .read,
          .step .server 60000000000 1, .step .server 60000000000 1, .carry .client 100, .step .server 60000000000 1,
          .enter .server .read, .step .server 60000000000 2, .step .server 60000000000 2,
          .step .server 60000000000 2] ∧
      Delivers p .client ∧ results (p.ends .server) = [.text "hi", .failed .emptyMessage] := by
  refine ⟨_, rfl, ?_, rfl⟩
  refine delivers_run (fun _ => .random 0) (fun _ => .default) (fun _ => 0) (fun _ _ => ⟨1, 2, 3, 4⟩) (fun _ => rfl)
    (fun _ => rfl) (fun _ => rfl) (fun role hmem => ?_) (fun role text hmem => ?_) rfl fun n text outcome hat => ?_
  · simp at hmem
  · have htext : text = "hi" ∨ text = "" := by
      simp at hmem
      rcases hmem with ⟨_, rfl⟩ | ⟨_, rfl⟩
      · exact Or.inl rfl
      · exact Or.inr rfl
    rcases htext with rfl | rfl
    · unfold Fits
      decide
    · unfold Fits
      decide
  · have hmem : _ ∈ ([⟨0, .write "hi", .finished .done⟩, ⟨1, .write "", .finished .done⟩] : List Call.Ongoing) :=
      List.mem_of_find?_eq_some hat
    simp only [List.mem_cons, Call.Ongoing.mk.injEq, Call.Stage.finished.injEq, List.not_mem_nil, or_false] at hmem
    rcases hmem with ⟨_, _, rfl⟩ | ⟨_, _, rfl⟩
    · rfl
    · rfl

end TextSocket.Connection
