import TextSocket.Proofs.Connection.Ledger
import TextSocket.Proofs.Connection.Listening
import TextSocket.Proofs.Connection.Texts

/-!
# `Proofs.Connection.Sending` — what a connection puts on its stream

A write may be given up at any time: while it waits for its half, while its text is in the slot, or while half of its
frame is on the stream. Whoever comes next goes on from there. The invariant (`Sending`) says what there is to go on
from: a ledger of the frames that have been written, and the owner of the text in the slot. The authors with the
owner behind them are calls that have obtained the writing half, in that order, and whoever puts everything on the
stream is among them.

## Contents

* `Sending`, `Sending.move` — the invariant;
* `Grows`, `Continues` — what a move makes of those who have handed over their texts;
* `Sending.idle_await`, `Sending.writes_await` — waiting, with the slot as it was and behind an attempt to write;
* `SendsSafely`, `SendsSafely.run` — what a run keeps.
-/

namespace TextSocket.Connection

open Net (Attempt)
open Socket (Slot Outbound Posts Advances Fits)

/-! ## The invariant -/

/-- A slot of the writing half that is still in somebody's hands: that of the connection, or that of the call that
    closes. -/
def Holds (c : Connection) (slot : Slot) : Prop :=
  c.writer = some slot ∨ ∃ n deadline, c.At n .close (.closing slot deadline)

/-- The frame of a call is on the stream, as far as the frames before it and itself. -/
def Delivered (base : Bytes) (posts : List Post) (outgoing : Bytes) (n : Nat) : Prop :=
  ∃ front post back, posts = front ++ post :: back ∧ post.author = some n ∧
    base ++ bytesOf (front ++ [post]) <+: outgoing

/-- **What a connection has to go on from**: the frames written behind `base`, and the owner of the text in the
    slot. -/
structure Sending (base : Bytes) (role : Socket.Role) (h : History) (posts : List Post) (owner : Option Nat) :
    Prop where
  /-- The role is the one at the start. -/
  role : h.connection.socket.role = role
  /-- The frames and their authors. -/
  ledger : Ledger base h.connection.textOf h.connection.socket posts
  /-- The text in the slot and its owner. -/
  owned : ∀ slot, Holds h.connection slot → Owned h.connection.textOf slot owner
  /-- They have obtained the writing half, in this order. -/
  ordered : (authors posts ++ owner.toList).Sublist (h.order .writing)
  /-- They have handed over their texts. -/
  settled : ∀ n ∈ authors posts ++ owner.toList, ∀ call stage, h.connection.At n call stage →
    (∃ deadline, stage = .flushing deadline) ∨ stage.isOver = true
  /-- Whoever puts everything on the stream is one of them. -/
  flushing : ∀ {n call deadline}, h.connection.At n call (.flushing deadline) → h.connection.signal = false →
    n ∈ authors posts ++ owner.toList
  /-- A write that has done its work has its frame on the stream, unless the peer has reset that. -/
  done : ∀ {n text}, h.connection.At n (.write text) (.finished .done) →
    Delivered base posts h.connection.socket.wire.outgoing n ∨ h.connection.socket.wire.ending = .dead

/-- **What a move of a call makes of those who have handed over their texts.** -/
structure Grows (h : History) (n : Nat) (posts : List Post) (owner : Option Nat) (posts' : List Post)
    (owner' : Option Nat) : Prop where
  /-- Whoever puts a text into the slot comes last, and nobody else comes in. -/
  line : (authors posts' ++ owner'.toList).Sublist (authors posts ++ owner.toList ++ h.connection.feeder n)
  /-- While nobody closes the connection nobody drops out. -/
  active : h.connection.socket.phase = .active →
    authors posts' ++ owner'.toList = authors posts ++ owner.toList ++ h.connection.feeder n
  /-- Once somebody closes it nobody becomes an author. -/
  silent : h.connection.socket.phase ≠ .active → authors posts' = authors posts

/-- What a connection has to go on from behind a move, and how it has come to it. -/
def Continues (base : Bytes) (role : Socket.Role) (h : History) (n : Nat) (c' : Connection) (posts : List Post)
    (owner : Option Nat) : Prop :=
  ∃ posts' owner', Sending base role (h.moved n c') posts' owner' ∧ Grows h n posts owner posts' owner'

section moves

variable {base : Bytes} {role : Socket.Role} {h : History} {posts : List Post} {owner : Option Nat}
  {c' : Connection} {now n : Nat} {call : Call} {stage stage' : Call.Stage}

theorem Delivered.mono {outgoing outgoing' : Bytes} (hd : Delivered base posts outgoing n) (more : List Post)
    (hadvance : outgoing <+: outgoing') : Delivered base (posts ++ more) outgoing' n := by
  obtain ⟨front, post, back, rfl, hauthor, hbytes⟩ := hd
  exact ⟨front, post, back ++ more, by simp, hauthor, hbytes.trans hadvance⟩

/-- As far as whole frames are on the stream, the frame of every author is. -/
theorem delivered_of_prefix {outgoing : Bytes} {whole : List Post} (back : List Post)
    (hwhole : base ++ bytesOf whole <+: outgoing) (hmem : n ∈ authors whole) :
    Delivered base (whole ++ back) outgoing n := by
  obtain ⟨post, hpost, hauthor⟩ := List.mem_filterMap.mp hmem
  obtain ⟨front, rest, rfl⟩ := List.append_of_mem hpost
  refine ⟨front, post, rest ++ back, by simp, hauthor, List.IsPrefix.trans ⟨bytesOf rest, ?_⟩ hwhole⟩
  rw [List.append_assoc, ← bytesOf_append]
  simp

/-- With everything on the stream, every frame is. -/
theorem Ledger.delivered {texts : Nat → Option String} {s : Socket} (hl : Ledger base texts s posts)
    (hempty : s.outbox = []) (hmem : n ∈ authors posts) : Delivered base posts s.wire.outgoing n := by
  have hwritten := hl.outbound.written
  unfold Socket.written at hwritten
  rw [hempty, List.append_nil, ← bytesOf_eq] at hwritten
  rw [hwritten]
  have hall := delivered_of_prefix [] (List.prefix_refl (base ++ bytesOf posts)) hmem
  rwa [List.append_nil] at hall

/-- A call that waits has not handed over its text. -/
theorem Sending.fresh (hsend : Sending base role h posts owner) {deadline : Nat}
    (hat : h.connection.At n call (.waiting deadline)) : n ∉ authors posts ++ owner.toList := by
  intro hmem
  rcases hsend.settled n hmem _ _ hat with ⟨_, hstage⟩ | hover
  · cases hstage
  · cases hover

/-- **A move keeps the invariant** if it accounts for the frames and for the slot. -/
theorem Sending.step (hsend : Sending base role h posts owner) (hat : h.connection.At n call stage)
    (hs : Shape h.connection n call stage stage' c') (hsignal : h.connection.signal = true → c'.signal = true)
    {more : List Post} {owner' : Option Nat}
    (hledger : Ledger base h.connection.textOf c'.socket (posts ++ more))
    (hadvance : Advances h.connection.socket c'.socket)
    (howned : ∀ slot, Holds c' slot → Owned h.connection.textOf slot owner')
    (hordered : (authors (posts ++ more) ++ owner'.toList).Sublist (h.granted n .writing))
    (hsettled : ∀ m ∈ authors (posts ++ more) ++ owner'.toList, m ∈ authors posts ++ owner.toList ∨
      m = n ∧ ∃ deadline, stage' = .flushing deadline)
    (hflushing : ∀ m call' deadline, c'.At m call' (.flushing deadline) → h.connection.signal = false →
      m ∈ authors (posts ++ more) ++ owner'.toList)
    (hdone : ∀ text, call = .write text → stage' = .finished .done → stage = .finished .done ∨
      Delivered base (posts ++ more) c'.socket.wire.outgoing n ∨ c'.socket.wire.ending = .dead) :
    Sending base role (h.moved n c') (posts ++ more) owner' where
  role := hadvance.role.trans hsend.role
  ledger := by
    show Ledger base c'.textOf c'.socket (posts ++ more)
    rw [hs.textOf_eq hat]
    exact hledger
  owned slot hholds := by
    show Owned c'.textOf slot owner'
    rw [hs.textOf_eq hat]
    exact howned slot hholds
  ordered := hordered
  settled m hm call' stage'' hat' := by
    by_cases hne : m = n
    · subst hne
      obtain ⟨rfl, rfl⟩ := hs.at_self.unique hat'
      rcases hsettled m hm with hold | ⟨_, hflushes⟩
      · rcases hsend.settled m hold call' stage hat with ⟨deadline, rfl⟩ | hover
        · rcases hs.flushes deadline rfl with rfl | hover
          · exact Or.inl ⟨deadline, rfl⟩
          · exact Or.inr hover
        · rw [hs.finished hover]
          exact Or.inr hover
      · exact Or.inl hflushes
    · have hold := (hsettled m hm).resolve_right fun he => hne he.1
      exact hsend.settled m hold call' stage'' ((hs.at_iff hne).mp hat')
  flushing hat' hclear := by
    refine hflushing _ _ _ hat' ?_
    -- the signal is not taken back
    rw [← Bool.not_eq_true]
    intro hset
    rw [show c'.signal = false from hclear] at hsignal
    cases hsignal hset
  done {m text} hat' := by
    have hold : h.connection.At m (.write text) (.finished .done) →
        Delivered base (posts ++ more) c'.socket.wire.outgoing m ∨ c'.socket.wire.ending = .dead :=
      fun hat'' => (hsend.done hat'').imp (fun hd => hd.mono more hadvance.onWire) hadvance.ending.dead
    by_cases hne : m = n
    · subst hne
      obtain ⟨rfl, rfl⟩ := hs.at_self.unique hat'
      rcases hdone text rfl rfl with rfl | hnew
      · exact hold hat
      · exact hnew
    · exact hold ((hs.at_iff hne).mp hat')

/-- **A move that puts no text on the stream**, and has nothing to do with the slot. -/
theorem Sending.quiet (hsend : Sending base role h posts owner) (hat : h.connection.At n call stage)
    (hs : Shape h.connection n call stage stage' c') (hfeeder : h.connection.feeder n = [])
    (hsignal : h.connection.signal = true → c'.signal = true)
    (hposts : Posts h.connection.socket [] c'.socket) (hholds : ∀ slot, Holds c' slot → Holds h.connection slot)
    (hflush : ∀ deadline, stage' ≠ .flushing deadline)
    (hdone : ∀ text, call = .write text → stage' = .finished .done → stage = .finished .done) :
    Continues base role h n c' posts owner := by
  obtain ⟨more, hledger, hmore⟩ := hsend.ledger.quiet hposts
  have hsame : authors (posts ++ more) = authors posts := by
    rw [authors_append, hmore, List.append_nil]
  have hline : authors (posts ++ more) ++ owner.toList = authors posts ++ owner.toList ++ h.connection.feeder n := by
    rw [hsame, hfeeder, List.append_nil]
  have hgrows : Grows h n posts owner (posts ++ more) owner :=
    ⟨hline ▸ List.Sublist.refl _, fun _ => hline, fun _ => hsame⟩
  refine ⟨posts ++ more, owner, hsend.step hat hs hsignal hledger hposts.advances ?owned ?ordered ?settled ?flushing
    ?done, hgrows⟩
  case owned =>
    intro slot hslot
    exact hsend.owned slot (hholds slot hslot)
  case ordered =>
    rw [hsame]
    exact hsend.ordered.trans (order_sublist_granted h n .writing)
  case settled =>
    rw [hsame]
    exact fun m hm => Or.inl hm
  case flushing =>
    intro m call' deadline hat' hclear
    rw [hsame]
    by_cases hne : m = n
    · subst hne
      exact absurd (hs.at_self.unique hat').2.symm (hflush deadline)
    · exact hsend.flushing ((hs.at_iff hne).mp hat') hclear
  case done =>
    intro text hcall hover
    exact Or.inl (hdone text hcall hover)

/-- A call that puts no text into the slot leaves it to the writing half who comes next. -/
theorem Passes.grows {result : Attempt Socket.Error Unit} {more : List Post} {owner' : Option Nat}
    (hpasses : Passes h.connection.socket result owner (authors more) owner') (hfeeder : h.connection.feeder n = []) :
    Grows h n posts owner (posts ++ more) owner' where
  line := by
    rw [authors_append, List.append_assoc, hfeeder, List.append_nil]
    exact (List.Sublist.refl _).append hpasses.line
  active hactive := by
    rw [authors_append, List.append_assoc, hpasses.active hactive, hfeeder, List.append_nil]
  silent hno := by
    rw [authors_append, hpasses.silent hno, List.append_nil]

/-- **A call on the writing half** that ends no write with success. -/
theorem Sending.handles (hsend : Sending base role h posts owner) (hat : h.connection.At n call stage)
    (hs : Shape h.connection n call stage stage' c') (hfeeder : h.connection.feeder n = [])
    (hsignal : h.connection.signal = true → c'.signal = true) {slot : Slot} (hslot : Holds h.connection slot)
    {result : Slot.Result} {sent : List Bytes}
    (hhandles : Slot.Handles slot h.connection.socket result sent) (hsocket : c'.socket = result.2.2)
    (hholds : ∀ slot', Holds c' slot' → slot' = result.2.1)
    (hkept : h.connection.signal = false → (∀ cause, result.1 ≠ .error cause) ∨
      ∀ m call' deadline, ¬ c'.At m call' (.flushing deadline))
    (hflush : ∀ deadline, stage' = .flushing deadline → stage = .flushing deadline)
    (hdone : ∀ text, call = .write text → stage' ≠ .finished .done) : Continues base role h n c' posts owner := by
  obtain ⟨more, owner', hledger, howned, hpasses⟩ := hsend.ledger.handles (hsend.owned slot hslot) hhandles
  have hgrows : Grows h n posts owner (posts ++ more) owner' := hpasses.grows hfeeder
  have hshrinks : (authors (posts ++ more) ++ owner'.toList).Sublist (authors posts ++ owner.toList) := by
    have hline := hgrows.line
    rwa [hfeeder, List.append_nil] at hline
  refine ⟨posts ++ more, owner', hsend.step hat hs hsignal (hsocket ▸ hledger)
    (hsocket ▸ hhandles.posts.advances) ?owned ?ordered ?settled ?flushing ?done, hgrows⟩
  case owned =>
    intro slot' hslot'
    rw [hholds slot' hslot']
    exact howned
  case ordered => exact hshrinks.trans (hsend.ordered.trans (order_sublist_granted h n .writing))
  case settled => exact fun m hm => Or.inl (hshrinks.subset hm)
  case flushing =>
    -- only a failure loses the text in the slot, and then nobody puts anything on the stream
    intro m call' deadline hat' hclear
    rcases hkept hclear with hfine | hnone
    · rw [authors_append, List.append_assoc, hpasses.kept hfine]
      by_cases hne : m = n
      · subst hne
        obtain ⟨rfl, rfl⟩ := hs.at_self.unique hat'
        have hstage := hflush deadline rfl
        subst hstage
        exact hsend.flushing hat hclear
      · exact hsend.flushing ((hs.at_iff hne).mp hat') hclear
    · exact absurd hat' (hnone m call' deadline)
  case done =>
    intro text hcall hover
    exact absurd hover (hdone text hcall)

/-- The text of an owner fits into a frame. -/
theorem Owned.fits {texts : Nat → Option String} (hfits : ∀ n text, texts n = some text → Fits text) {slot : Slot}
    (howned : Owned texts slot owner) : ∀ text ∈ slot, Fits text := by
  rintro text hmem
  cases hmem
  cases owner with
  | none => exact False.elim howned
  | some n => exact hfits n text howned

/-- Before the signal nobody sends a close frame. -/
theorem Guarded.not_closing (hg : Guarded h) (hclear : h.connection.signal = false) {m deadline : Nat} {slot : Slot} :
    ¬ h.connection.At m .close (.closing slot deadline) := by
  intro hm
  obtain ⟨stage, hat, _, hgates⟩ := hg.closer m (hg.closer_of_closes hm rfl)
  obtain ⟨_, rfl⟩ := hat.unique hm
  have hset := congrArg Gates.signal hgates
  rw [show h.connection.gates.signal = false from hclear] at hset
  cases hset

/-- While writes go on, the slot is that of the connection. -/
theorem Guarded.writer_of_holds (hg : Guarded h) (hclear : h.connection.signal = false) (hcall : call ≠ .close)
    (hs : Shape h.connection n call stage stage' c') {slot : Slot} (hholds : Holds c' slot) :
    c'.writer = some slot := by
  rcases hholds with hwriter | ⟨m, deadline, hm⟩
  · exact hwriter
  · by_cases hne : m = n
    · subst hne
      exact absurd (hs.at_self.unique hm).1.symm hcall
    · exact absurd ((hs.at_iff hne).mp hm) (hg.not_closing hclear)

/-- A move that leaves the slot of the connection where it is, and ends in no stage of closing that has one. -/
theorem holds_of_same (hs : Shape h.connection n call stage stage' c') (hwriter : c'.writer = h.connection.writer)
    (hstage : ∀ slot deadline, stage' ≠ .closing slot deadline) {slot : Slot} (hholds : Holds c' slot) :
    Holds h.connection slot := by
  rcases hholds with hslot | ⟨m, deadline, hm⟩
  · exact Or.inl (hwriter ▸ hslot)
  · by_cases hne : m = n
    · subst hne
      exact absurd (hs.at_self.unique hm).2.symm (hstage slot deadline)
    · exact Or.inr ⟨m, deadline, (hs.at_iff hne).mp hm⟩

/-- While a call has the writing half, no other call puts everything on the stream. -/
theorem Coherent.not_flushing (hc : Coherent h.connection) (hs : Shape h.connection n call stage stage' c')
    (hover : stage'.isOver = true) (hfirst : ∀ m, h.connection.writers.head? = some m → m = n) {m deadline : Nat}
    {call' : Call} : ¬ c'.At m call' (.flushing deadline) := by
  intro hm
  by_cases hne : m = n
  · subst hne
    obtain ⟨_, rfl⟩ := hs.at_self.unique hm
    cases hover
  · exact hne (hfirst m (hc.first ((hs.at_iff hne).mp hm)))

/-- A move that ends or prolongs a stage in which nothing is put on the stream. -/
theorem Sending.idle (hsend : Sending base role h posts owner) (hc : Coherent h.connection)
    (hat : h.connection.At n call stage) (hmove : Move h.connection now n call stage c') {next : Call.Stage}
    (hself : c'.At n call next) (hsignal : h.connection.signal = true → c'.signal = true)
    (hposts : Posts h.connection.socket [] c'.socket) (hwriter : c'.writer = h.connection.writer)
    (hflush : ∀ deadline, next ≠ .flushing deadline) (hclosing : ∀ slot deadline, next ≠ .closing slot deadline)
    (hdone : ∀ text, call = .write text → next = .finished .done → stage = .finished .done) :
    Continues base role h n c' posts owner := by
  obtain ⟨stage', hs⟩ := hc.shape hat hmove
  obtain ⟨_, rfl⟩ := hs.at_self.unique hself
  have hfeeder := hmove.feeder_eq_nil hat hself fun deadline hno => absurd hno (hflush deadline)
  exact hsend.quiet hat hs hfeeder hsignal hposts (fun slot hslot => holds_of_same hs hwriter hclosing hslot) hflush
    hdone

/-- The same for a call that has to wait. -/
theorem Sending.idle_await (hsend : Sending base role h posts owner) (hc : Coherent h.connection)
    (hat : h.connection.At n call stage) {x : Connection} {deadline : Nat} {cause : Error}
    (hmove : Move h.connection now n call stage (x.await now n deadline cause)) (hself : x.At n call stage)
    (hsignal : x.signal = h.connection.signal) (hposts : Posts h.connection.socket [] x.socket)
    (hwriter : x.writer = h.connection.writer) (hflush : ∀ deadline, stage ≠ .flushing deadline)
    (hclosing : ∀ slot deadline, stage ≠ .closing slot deadline) :
    Continues base role h n (x.await now n deadline cause) posts owner := by
  have hset : h.connection.signal = true → (x.await now n deadline cause).signal = true := by
    simp [hsignal]
  have hquiet : Posts h.connection.socket [] (x.await now n deadline cause).socket := by
    simpa using hposts
  have hsame : (x.await now n deadline cause).writer = h.connection.writer := by
    simpa using hwriter
  obtain ⟨next, hself', rfl | rfl⟩ := hself.await now deadline cause
  · exact hsend.idle hc hat hmove hself' hset hquiet hsame hflush hclosing fun _ _ hdone => hdone
  · exact hsend.idle hc hat hmove hself' hset hquiet hsame (by simp) (by simp) (by simp)

/-- Without the last element of another list, a part of that is one of what stands in front. -/
theorem sublist_front {α : Type} {part front : List α} {a : α} (hpart : part.Sublist (front ++ [a])) (hno : a ∉ part) :
    part.Sublist front := by
  obtain ⟨begun, last, rfl, hbegun, hlast⟩ := List.sublist_append_iff.mp hpart
  have hnil : last = [] := by
    refine List.eq_nil_iff_forall_not_mem.mpr fun b hb => ?_
    obtain rfl := List.mem_singleton.mp (hlast.subset hb)
    exact hno (List.mem_append_right _ hb)
  rw [hnil, List.append_nil]
  exact hbegun

/-- A text that does not get into the slot: at most the text that is there has been put on the stream. -/
theorem Sending.handles_of_not_fed (hsend : Sending base role h posts owner)
    (hfits : ∀ n text, h.connection.textOf n = some text → Fits text) {slot : Slot}
    (hwriter : h.connection.writer = some slot) {text : String} {result : Slot.Result}
    (hfeed : slot.feed h.connection.socket text = result) (hno : result.1 ≠ .ok ()) :
    ∃ sent, Slot.Handles slot h.connection.socket result sent := by
  have hfed := Slot.feed_handles slot h.connection.socket text ((hsend.owned slot (Or.inl hwriter)).fits hfits)
  rw [hfeed] at hfed
  rcases hfed with ⟨hok, _⟩ | ⟨_, hhandles⟩
  · exact absurd hok hno
  · exact hhandles

/-- Everything is put on the stream, as far as that goes. -/
theorem Sending.handles_of_flush (hsend : Sending base role h posts owner)
    (hfits : ∀ n text, h.connection.textOf n = some text → Fits text) {slot : Slot}
    (hwriter : h.connection.writer = some slot) {result : Slot.Result}
    (hflush : slot.flush h.connection.socket = result) :
    ∃ sent, Slot.Handles slot h.connection.socket result sent ∧
      (result.1 = .ok () → result.2.1 = none ∧ (result.2.2.outbox = [] ∨ result.2.2.wire.ending = .dead)) := by
  obtain ⟨sent, hhandles, hall⟩ :=
    Slot.flush_handles slot h.connection.socket ((hsend.owned slot (Or.inl hwriter)).fits hfits)
  rw [hflush] at hhandles hall
  exact ⟨sent, hhandles, hall⟩

/-- **A write puts its text into the slot**, and becomes its owner. -/
theorem Sending.fed (hsend : Sending base role h posts owner) (ht : Turns h) (hg : Guarded h)
    (hfits : ∀ n text, h.connection.textOf n = some text → Fits text) {text : String} {deadline : Nat}
    (hat : h.connection.At n (.write text) (.waiting deadline)) (hclear : h.connection.signal = false)
    (hqueue : (h.connection.writers.join n).serves n = true) {slot slot' : Slot} {socket : Socket}
    (hwriter : h.connection.writer = some slot)
    (hfeed : slot.feed h.connection.socket text = (.ok (), slot', socket)) :
    Continues base role h n (({ h.connection with
      writers := h.connection.writers.join n, socket, writer := some slot' } : Connection).setStage n
        (.flushing deadline)) posts owner := by
  have hmove : Move h.connection 0 n _ _ _ := .fed deadline hclear hqueue hwriter hfeed
  obtain ⟨stage', hs⟩ := ht.coherent.shape hat hmove
  obtain ⟨_, rfl⟩ := hs.at_self.unique (at_setStage (c := { h.connection with
    writers := _, socket := _, writer := _ }) hat (.flushing deadline))
  have hslot : Holds h.connection slot := Or.inl hwriter
  have howned := hsend.owned slot hslot
  have hhandles := Slot.feed_handles slot h.connection.socket text (howned.fits hfits)
  rw [hfeed] at hhandles
  obtain ⟨_, hnew, hposts, hsilent⟩ := hhandles.resolve_right fun hno => hno.1 rfl
  obtain ⟨more, hledger, hmore⟩ := hsend.ledger.feed howned hposts
  have hgrants : h.connection.grants .writing n = true :=
    (grants_iff hat).mpr ⟨⟨deadline, rfl⟩, rfl, hclear, hqueue⟩
  obtain ⟨front, hfront, hn, _⟩ := ht.turn_of_grants hat hgrants
  have hall : authors (posts ++ more) ++ (some n).toList = (authors posts ++ owner.toList) ++ [n] := by
    rw [authors_append, hmore]
    rfl
  have hfeeds : h.connection.feeds n = true :=
    feeds_iff.mpr ⟨text, slot, textOf_of_at hat, hwriter, hgrants, by rw [hfeed]⟩
  have hgrows : Grows h n posts owner (posts ++ more) (some n) := by
    have hline : authors (posts ++ more) ++ (some n).toList = authors posts ++ owner.toList ++ h.connection.feeder n := by
      rw [hall, feeder, if_pos hfeeds]
    refine ⟨hline ▸ List.Sublist.refl _, fun _ => hline, fun hno => ?_⟩
    rw [authors_append, hmore, howned.toList_eq_nil (hsilent hno), List.append_nil]
  -- the call has not handed over a text before, so it comes behind all that have
  have hfresh := hsend.fresh hat
  have hordered : (authors posts ++ owner.toList).Sublist front := by
    have hsub := hsend.ordered.trans (order_sublist_granted h n .writing)
    rw [hfront] at hsub
    exact sublist_front hsub hfresh
  refine ⟨posts ++ more, some n, hsend.step hat hs (fun hset => hset) hledger hposts.advances
    ?owned ?ordered ?settled ?flushing ?done, hgrows⟩
  case owned =>
    intro slot'' hslot''
    have hwriter' := hg.writer_of_holds hclear (by simp) hs hslot''
    have hslot' : slot'' = slot' := (Option.some.inj hwriter').symm
    rw [hslot', show slot' = some text from hnew]
    exact textOf_of_at hat
  case ordered =>
    rw [hall, hfront]
    exact hordered.append (List.Sublist.refl [n])
  case settled =>
    rw [hall]
    intro m hm
    rcases List.mem_append.mp hm with hold | hself
    · exact Or.inl hold
    · exact Or.inr ⟨List.mem_singleton.mp hself, deadline, rfl⟩
  case flushing =>
    rw [hall]
    intro m call' deadline' hm _
    by_cases hne : m = n
    · exact List.mem_append_right _ (List.mem_singleton.mpr hne)
    · exact List.mem_append_left _ (hsend.flushing ((hs.at_iff hne).mp hm) hclear)
  case done =>
    intro text' _ hover
    cases hover

/-- **A write has put everything on the stream**, its own frame with it. -/
theorem Sending.flushed (hsend : Sending base role h posts owner) (hg : Guarded h)
    (hfits : ∀ n text, h.connection.textOf n = some text → Fits text) {deadline : Nat}
    (hat : h.connection.At n call (.flushing deadline)) (hclear : h.connection.signal = false)
    {slot slot' : Slot} {socket : Socket} (hwriter : h.connection.writer = some slot)
    (hflush : slot.flush h.connection.socket = (.ok (), slot', socket)) :
    Continues base role h n
      (({ h.connection with socket, writer := some slot' } : Connection).conclude n .done) posts owner := by
  have hmove : Move h.connection 0 n call _ _ := .flushed deadline hclear hwriter hflush
  obtain ⟨stage', hs⟩ := hg.coherent.shape hat hmove
  obtain ⟨_, rfl⟩ := hs.at_self.unique (at_conclude (c := { h.connection with
    socket := _, writer := _ }) hat .done)
  have hcall := (hg.coherent.suits hat).ne_close
  have howned := hsend.owned slot (Or.inl hwriter)
  obtain ⟨sent, hhandles, hall⟩ := hsend.handles_of_flush hfits hwriter hflush
  obtain ⟨hnone, hempty⟩ := hall rfl
  simp only at hnone hempty
  obtain ⟨more, owner', hledger, howned', hpasses⟩ := hsend.ledger.handles howned hhandles
  have hsame : authors (posts ++ more) ++ owner'.toList = authors posts ++ owner.toList := by
    rw [authors_append, List.append_assoc, hpasses.kept fun _ hcause => by cases hcause]
  have hfeeder : h.connection.feeder n = [] := feeder_of_not_waiting hat (by simp)
  have hmine := hsend.flushing hat hclear
  refine ⟨posts ++ more, owner', hsend.step hat hs (fun hset => hset) hledger hhandles.posts.advances
    ?owned ?ordered ?settled ?flushing ?done, hpasses.grows hfeeder⟩
  case owned =>
    intro slot'' hslot''
    have hwriter' := hg.writer_of_holds hclear hcall hs hslot''
    rw [← Option.some.inj hwriter']
    exact howned'
  case ordered =>
    rw [hsame]
    exact hsend.ordered.trans (order_sublist_granted h n .writing)
  case settled =>
    rw [hsame]
    exact fun m hm => Or.inl hm
  case flushing =>
    intro m call' deadline' hm _
    exact absurd hm (hg.coherent.not_flushing hs rfl fun m => hg.coherent.eq_of_head hat)
  case done =>
    intro text _ _
    refine Or.inr (hempty.imp_left fun hempty => ?_)
    -- the slot is empty, so the call is the author of a frame
    have hnobody : owner' = none := by
      rw [hnone] at howned'
      cases owner' with
      | none => rfl
      | some m => exact False.elim howned'
    rw [← hsame, hnobody, Option.toList_none, List.append_nil] at hmine
    exact hledger.delivered hempty hmine

/-- A move of a write that has the writing half, and does not end with success. -/
theorem Sending.writes (hsend : Sending base role h posts owner) (hg : Guarded h)
    (hat : h.connection.At n call stage) (hmove : Move h.connection now n call stage c') (hcall : call ≠ .close)
    (hclear : h.connection.signal = false) {next : Call.Stage} (hself : c'.At n call next) {slot : Slot}
    (hwriter : h.connection.writer = some slot) {result : Slot.Result} {sent : List Bytes}
    (hhandles : Slot.Handles slot h.connection.socket result sent) (hsocket : c'.socket = result.2.2)
    (hwriter' : c'.writer = some result.2.1)
    (hkept : (∀ cause, result.1 ≠ .error cause) ∨
      next.isOver = true ∧ ∀ m, h.connection.writers.head? = some m → m = n)
    (hflush : ∀ deadline, next = .flushing deadline → stage = .flushing deadline)
    (hdone : next ≠ .finished .done) : Continues base role h n c' posts owner := by
  obtain ⟨stage', hs⟩ := hg.coherent.shape hat hmove
  obtain ⟨_, rfl⟩ := hs.at_self.unique hself
  have hfeeder := hmove.feeder_eq_nil hat hself hflush
  refine hsend.handles hat hs hfeeder ?signal (Or.inl hwriter) hhandles hsocket ?holds (fun _ => ?kept) hflush
    fun _ _ => hdone
  case signal =>
    intro hset
    rw [hclear] at hset
    cases hset
  case holds =>
    intro slot' hslot'
    have hslot := hg.writer_of_holds hclear hcall hs hslot'
    rw [hwriter'] at hslot
    exact (Option.some.inj hslot).symm
  case kept =>
    refine hkept.imp_right fun ⟨hover, hfirst⟩ => ?_
    intro m call' deadline
    exact hg.coherent.not_flushing hs hover hfirst

/-- The same for a write that has to wait. -/
theorem Sending.writes_await (hsend : Sending base role h posts owner) (hg : Guarded h)
    (hat : h.connection.At n call stage) {x : Connection} {deadline : Nat} {cause : Error}
    (hmove : Move h.connection now n call stage (x.await now n deadline cause)) (hcall : call ≠ .close)
    (hclear : h.connection.signal = false) (hself : x.At n call stage) (hgoes : stage.isOver = false) {slot : Slot}
    (hwriter : h.connection.writer = some slot) {result : Slot.Result} {sent : List Bytes}
    (hhandles : Slot.Handles slot h.connection.socket result sent) (hblocked : result.1 = .blocked)
    (hsocket : x.socket = result.2.2) (hwriter' : x.writer = some result.2.1) :
    Continues base role h n (x.await now n deadline cause) posts owner := by
  have hsocket' : (x.await now n deadline cause).socket = result.2.2 := by
    simpa using hsocket
  have hslot : (x.await now n deadline cause).writer = some result.2.1 := by
    simpa using hwriter'
  have hfine : ∀ cause, result.1 ≠ .error cause := by
    simp [hblocked]
  obtain ⟨next, hself', rfl | rfl⟩ := hself.await now deadline cause
  · refine hsend.writes hg hat hmove hcall hclear hself' hwriter hhandles hsocket' hslot (Or.inl hfine)
      (fun _ hflush => hflush) ?_
    rintro rfl
    cases hgoes
  · exact hsend.writes hg hat hmove hcall hclear hself' hwriter hhandles hsocket' hslot (Or.inl hfine) (by simp)
      (by simp)

/-- A move of the call that closes while it sends its close frame. -/
theorem Sending.closes (hsend : Sending base role h posts owner) (hg : Guarded h) {slot slot' : Slot} {deadline : Nat}
    (hat : h.connection.At n .close (.closing slot deadline))
    (hmove : Move h.connection now n .close (.closing slot deadline) c')
    (hfits : ∀ n text, h.connection.textOf n = some text → Fits text) {next : Call.Stage}
    (hself : c'.At n .close next) {result : Attempt Socket.Error Unit} {socket : Socket}
    (hclose : slot.close h.connection.socket = (result, slot', socket)) (hsocket : c'.socket = socket)
    (hwriter : c'.writer = h.connection.writer)
    (hnext : next = .leaving ∨ next = .closing slot' deadline) (hsignal : c'.signal = h.connection.signal) :
    Continues base role h n c' posts owner := by
  obtain ⟨stage', hs⟩ := hg.coherent.shape hat hmove
  obtain ⟨_, rfl⟩ := hs.at_self.unique hself
  have hcloser := hg.closer_of_closes hat rfl
  have hgates : h.connection.gates = ⟨true, true, true, false⟩ := by
    obtain ⟨stage, hat', _, hgates⟩ := hg.closer n hcloser
    obtain ⟨_, rfl⟩ := hat.unique hat'
    exact hgates
  have hslot : Holds h.connection slot := Or.inr ⟨n, deadline, hat⟩
  obtain ⟨sent, hhandles⟩ := Slot.close_handles slot h.connection.socket ((hsend.owned slot hslot).fits hfits)
  rw [hclose] at hhandles
  have hfeeder : h.connection.feeder n = [] := feeder_of_not_waiting hat (by simp)
  refine hsend.handles hat hs hfeeder (fun hset => hsignal.trans hset) hslot hhandles hsocket ?holds ?kept ?flush ?done
  case holds =>
    -- the connection has no slot any more, and no other call closes
    rintro slot'' (hgone | ⟨m, deadline', hm⟩)
    · have hnone : h.connection.writer.isNone = true := congrArg Gates.writing hgates
      rw [hwriter] at hgone
      rw [hgone] at hnone
      cases hnone
    · by_cases hne : m = n
      · subst hne
        obtain ⟨_, hstage⟩ := hs.at_self.unique hm
        rcases hnext with rfl | rfl
        · cases hstage
        · cases hstage
          rfl
      · have hother := hg.closer_of_closes ((hs.at_iff hne).mp hm) rfl
        rw [hcloser] at hother
        exact absurd (Option.some.inj hother).symm hne
  case kept =>
    intro hclear
    have hset := congrArg Gates.signal hgates
    rw [show h.connection.gates.signal = false from hclear] at hset
    cases hset
  case flush =>
    intro deadline' hstage
    rcases hnext with rfl | rfl
    · cases hstage
    · cases hstage
  case done =>
    intro text hcall
    cases hcall

/-- **A call that closes takes the slot**, which goes over from the connection into its hands. -/
theorem Sending.took (hsend : Sending base role h posts owner) (hc : Coherent h.connection)
    (hat : h.connection.At n .close .signalled) {slot : Slot} (deadline : Nat)
    (hqueue : (h.connection.writers.join n).serves n = true) (hwriter : h.connection.writer = some slot) :
    Continues base role h n (({ h.connection with
      writer := none, writers := (h.connection.writers.join n).leave n } : Connection).setStage n
        (.closing slot deadline)) posts owner := by
  have hmove : Move h.connection 0 n .close _ _ := .took deadline hqueue hwriter
  obtain ⟨stage', hs⟩ := hc.shape hat hmove
  obtain ⟨_, rfl⟩ := hs.at_self.unique (at_setStage (c := { h.connection with
    writer := _, writers := _ }) hat (.closing slot deadline))
  refine hsend.quiet hat hs (feeder_of_not_waiting hat (by simp)) (fun hset => hset) (Posts.refl _) ?holds (by simp)
    (by simp)
  case holds =>
    rintro slot' (hgone | ⟨m, deadline', hm⟩)
    · cases hgone
    · by_cases hne : m = n
      · subst hne
        cases (hs.at_self.unique hm).2
        exact Or.inl hwriter
      · exact Or.inr ⟨m, deadline', (hs.at_iff hne).mp hm⟩

/-- **Every move keeps what there is to go on from.** -/
theorem Sending.move (hsend : Sending base role h posts owner) (ht : Turns h) (hg : Guarded h)
    (hfits : ∀ n text, h.connection.textOf n = some text → Fits text) (hat : h.connection.At n call stage)
    (hmove : Move h.connection now n call stage c') : Continues base role h n c' posts owner := by
  have hmove' := hmove
  have hc := ht.coherent
  have hsuits := hc.suits hat
  have hsame := Posts.refl h.connection.socket
  have hread := nextText_posts h.connection.socket
  -- moves that have nothing to do with the slot come first, then those of writes, and then those of closing
  cases hmove with
  | refused _ _ | passed _ | woken _ _ | bereftRead _ _ _ _ | bereftWrite _ _ _ _ | bereftFlush _ _ _ =>
    exact hsend.idle hc hat hmove' (at_conclude hat _) (fun hset => hset) hsame rfl (by simp) (by simp) (by simp)
  | tested _ _ _ | subscribed _ | flagged _ =>
    exact hsend.idle hc hat hmove' (at_setStage hat _) (fun hset => hset) hsame rfl (by simp) (by simp) (by simp)
  | signalled =>
    exact hsend.idle hc hat hmove' (at_setStage hat _) (fun _ => rfl) hsame rfl (by simp) (by simp) (by simp)
  | queuedClose _ | queuedLeave _ =>
    exact hsend.idle hc hat hmove' hat (fun hset => hset) hsame rfl (by simp) (by simp) (by simp)
  | missed _ hwriter =>
    exact hsend.idle hc hat hmove' (at_setStage hat _) (fun hset => hset) hsame hwriter.symm (by simp) (by simp)
      (by simp)
  | left _ =>
    have hreleased := Posts.of_congr (s := h.connection.socket)
      (t := { h.connection.socket with wire := h.connection.socket.wire.release }) rfl rfl rfl rfl rfl (fun hp => hp)
      (.refl _)
    obtain rfl := hsuits.eq_close rfl
    exact hsend.idle hc hat hmove' (at_conclude hat _) (fun hset => hset) hreleased rfl (by simp) (by simp)
      (by simp)
  | idle hover =>
    refine hsend.idle hc hat hmove' hat (fun hset => hset) hsame rfl ?_ ?_ fun _ _ hdone => hdone
    · rintro deadline rfl
      cases hover
    · rintro slot deadline rfl
      cases hover
  | queuedRead deadline _ _ => exact hsend.idle_await hc hat hmove' hat rfl hsame rfl (by simp) (by simp)
  | read deadline _ _ _ hnext | readFailed deadline _ _ _ hnext =>
    rw [hnext] at hread
    exact hsend.idle hc hat hmove' (at_conclude hat _) (fun hset => hset) hread rfl (by simp) (by simp) (by simp)
  | readBlocked deadline _ _ _ hnext =>
    rw [hnext] at hread
    exact hsend.idle_await hc hat hmove' hat rfl hread rfl (by simp) (by simp)
  | queuedWrite deadline _ _ => exact hsend.idle_await hc hat hmove' hat rfl hsame rfl (by simp) (by simp)
  | fed deadline hclear hqueue hwriter hfeed => exact hsend.fed ht hg hfits hat hclear hqueue hwriter hfeed
  | feedFailed deadline hclear hqueue hwriter hfeed =>
    -- the text that was in the slot may be lost, but nobody waits for it
    have hfirst : ∀ m, h.connection.writers.head? = some m → m = n := fun m => Queue.eq_of_serves_join hqueue
    obtain ⟨sent, hhandles⟩ := hsend.handles_of_not_fed hfits hwriter hfeed (by simp)
    exact hsend.writes hg hat hmove' (by simp) hclear (at_conclude hat _) hwriter hhandles rfl rfl
      (Or.inr ⟨rfl, hfirst⟩) (by simp) (by simp)
  | feedBlocked deadline hclear hqueue hwriter hfeed =>
    obtain ⟨sent, hhandles⟩ := hsend.handles_of_not_fed hfits hwriter hfeed (by simp)
    exact hsend.writes_await hg hat hmove' (by simp) hclear hat rfl hwriter hhandles rfl rfl rfl
  | flushed deadline hclear hwriter hflush => exact hsend.flushed hg hfits hat hclear hwriter hflush
  | flushFailed deadline hclear hwriter hflush =>
    obtain ⟨sent, hhandles, _⟩ := hsend.handles_of_flush hfits hwriter hflush
    exact hsend.writes hg hat hmove' hsuits.ne_close hclear (at_conclude hat _) hwriter hhandles rfl rfl
      (Or.inr ⟨rfl, fun m => hc.eq_of_head hat⟩) (by simp) (by simp)
  | @flushBlocked call deadline slot slot' socket hclear hwriter hflush =>
    obtain ⟨sent, hhandles, _⟩ := hsend.handles_of_flush hfits hwriter hflush
    have hstill := at_setStage (c := { h.connection with socket, writer := some slot' }) hat (.flushing deadline)
    exact hsend.writes_await hg hat hmove' hsuits.ne_close hclear hstill rfl hwriter hhandles rfl rfl rfl
  | took deadline hqueue hwriter =>
    obtain rfl := hsuits.eq_close rfl
    exact hsend.took hc hat deadline hqueue hwriter
  | closed deadline hclose _ =>
    obtain rfl := hsuits.eq_close rfl
    exact hsend.closes hg hat hmove' hfits (at_setStage hat _) hclose rfl rfl (Or.inl rfl) rfl
  | closeBlocked deadline hclose _ =>
    obtain rfl := hsuits.eq_close rfl
    exact hsend.closes hg hat hmove' hfits (at_setStage hat _) hclose rfl rfl (Or.inr rfl) rfl
  | astray _ => exact False.elim hsuits

end moves

section runs

variable {base : Bytes} {role : Socket.Role} {h : History} {posts : List Post} {owner : Option Nat}

/-- What the peer does changes nothing that writing sees. -/
theorem Sending.peer (hsend : Sending base role h posts owner) (act : Net.PeerAct) :
    Sending base role (h.after (.peer act)) posts owner := by
  have haffects := act.affects h.connection.socket.wire
  have hwritten : (h.connection.onWire act.apply).socket.written = h.connection.socket.written := by
    show (act.apply h.connection.socket.wire).outgoing ++ _ = _
    rw [haffects.outgoing_eq]
    rfl
  refine ⟨hsend.role, hsend.ledger.congr (hsend.ledger.outbound.congr hwritten rfl rfl (fun hp => hp)), hsend.owned,
    hsend.ordered, hsend.settled, hsend.flushing, fun hat => ?_⟩
  refine (hsend.done hat).imp (fun hd => ?_) haffects.dead
  show Delivered base posts (act.apply h.connection.socket.wire).outgoing _
  rw [haffects.outgoing_eq]
  exact hd

theorem Sending.other (hsend : Sending base role h posts owner) (ht : Turns h) {event : Event}
    (hevent : ∀ now n, event ≠ .step now n) : Sending base role (h.after event) posts owner := by
  have hc := ht.coherent
  rcases Event.enter_or_peer hevent with ⟨call, rfl⟩ | ⟨act, rfl⟩
  · have hmore := fun n text (htext : h.connection.textOf n = some text) => textOf_enter hc call htext
    constructor
    case role => exact hsend.role
    case ledger => exact hsend.ledger.mono hmore
    case owned =>
      intro slot hholds
      refine (hsend.owned slot ?_).mono hmore
      rcases hholds with hwriter | ⟨n, deadline, hat⟩
      · exact Or.inl hwriter
      · rcases hc.at_enter.mp hat with hat | ⟨_, _, hbegun⟩
        · exact Or.inr ⟨n, deadline, hat⟩
        · cases hbegun
    case ordered => exact hsend.ordered
    case settled =>
      intro n hmem call' stage hat
      rcases hc.at_enter.mp hat with hat | ⟨rfl, _, rfl⟩
      · exact hsend.settled n hmem call' stage hat
      · -- whoever has handed over a text is not new
        obtain ⟨call, stage, hold, _⟩ := ht.turn (hsend.ordered.subset hmem)
        have hnew := hc.fresh _ (Nat.le_refl _)
        rw [show h.connection.call? _ = _ from hold] at hnew
        cases hnew
    case flushing =>
      intro n call' deadline hat hclear
      rcases hc.at_enter.mp hat with hat | ⟨_, _, hbegun⟩
      · exact hsend.flushing hat hclear
      · cases hbegun
    case done =>
      intro n text hat
      rcases hc.at_enter.mp hat with hat | ⟨_, _, hbegun⟩
      · exact hsend.done hat
      · cases hbegun
  · exact hsend.peer act

/-- What a run keeps as long as every text fits into a frame. -/
structure SendsSafely (base : Bytes) (role : Socket.Role) (h : History) : Prop where
  /-- Halves are obtained in turn. -/
  turns : Turns h
  /-- One call closes. -/
  guarded : Guarded h
  /-- Every text fits into a frame. -/
  fits : ∀ n text, h.connection.textOf n = some text → Fits text
  /-- There are a ledger and an owner of the slot. -/
  sending : ∃ posts owner, Sending base role h posts owner

theorem SendsSafely.move {c' : Connection} {now n : Nat} {call : Call} {stage : Call.Stage}
    (hp : SendsSafely base role h) (hat : h.connection.At n call stage)
    (hmove : Move h.connection now n call stage c') : SendsSafely base role (h.moved n c') := by
  obtain ⟨ht, hg, hfits, posts, owner, hsend⟩ := hp
  obtain ⟨stage', hs⟩ := ht.coherent.shape hat hmove
  obtain ⟨posts', owner', hsend', _⟩ := hsend.move ht hg hfits hat hmove
  refine ⟨ht.move hat hmove, hg.move hat hmove, ?_, posts', owner', hsend'⟩
  show ∀ n text, c'.textOf n = some text → Fits text
  rw [hs.textOf_eq hat]
  exact hfits

theorem SendsSafely.other (hp : SendsSafely base role h) {event : Event} (hevent : ∀ now n, event ≠ .step now n)
    (hfit : ∀ text, event = .enter (.write text) → Fits text) : SendsSafely base role (h.after event) := by
  obtain ⟨ht, hg, hfits, posts, owner, hsend⟩ := hp
  refine ⟨ht.other hevent, hg.other hevent, fun n text htext => ?_, posts, owner, hsend.other ht hevent⟩
  obtain ⟨stage, hat⟩ := at_of_textOf htext
  cases event with
  | step now n => exact absurd rfl (hevent now n)
  | enter call =>
    rcases ht.coherent.at_enter.mp hat with hat | ⟨_, rfl, _⟩
    · exact hfits n text (textOf_of_at hat)
    · exact hfit text rfl
  | peer act => exact hfits n text htext

theorem SendsSafely.run (hp : SendsSafely base role h) {events : List Event}
    (hfits : ∀ text, .enter (.write text) ∈ events → Fits text) : SendsSafely base role (h.run events) := by
  refine History.run_of_move (Q := fun event => ∀ text, event = .enter (.write text) → Fits text)
    (fun hp hat hmove => hp.move hat hmove) (fun hp hfit hevent => hp.other hevent hfit) hp ?_
  rintro event hmem text rfl
  exact hfits text hmem

/-- At the start nothing has been written. -/
theorem sends_start (id : ConnectionId) (config : Config) (role : Socket.Role) (wire : Net.Wire) (threshold : Nat)
    (keys : Nat → MaskKey) : SendsSafely wire.outgoing role
      (.start (ofSocket id config (Socket.ofWire role wire threshold keys))) := by
  have hout := Socket.outbound_start role wire threshold keys
  refine ⟨turns_run id config _ [], guarded_run id config _ [], fun n text htext => (by cases htext), [], none, ?_⟩
  constructor
  case role => rfl
  case ledger => exact ⟨hout, fun post hmem => (by cases hmem), fun post hmem => (by cases hmem)⟩
  case owned =>
    -- the slot is empty
    rintro slot (hwriter | ⟨n, deadline, hat⟩)
    · cases hwriter
      trivial
    · cases hat
  case ordered => exact List.Sublist.refl _
  case settled => intro n hmem; cases hmem
  case flushing => intro n call deadline hat; cases hat
  case done => intro n text hat; cases hat

end runs

end TextSocket.Connection
