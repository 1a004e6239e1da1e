import TextSocket.Proofs.Connection.Run
import TextSocket.Proofs.Socket.Slot

/-!
# `Proofs.Connection.Ledger` — whose text is in which frame

The frames that a socket has written do not say which call they come from. A ledger notes it: every text frame has
an author, and carries the whole text of that call (`Ledger`). The text in the slot of the writing half has an owner
in the same way (`Owned`).

Whatever the writing half does, the owner of the slot stays owner, or becomes the author of one more frame, or
drops out (`Passes`). So the authors with the owner behind them are a list that grows at its end only, and while nobody
closes the connection nobody drops out of it.

## Contents

* `Post`, `authors`, `Ledger` — frames with their authors;
* `Owned` — the owner of the slot;
* `Ledger.add`, `Passes`, `Ledger.handles`, `Ledger.feed` — what operations do to a ledger.
-/

namespace TextSocket.Connection

open Net (Attempt)
open Socket (Slot Outbound Posts)

/-! ## Authors -/

/-- A frame that has been written, with the number of the call whose text it carries. -/
structure Post where
  /-- The frame. -/
  frame : Frame
  /-- The call whose text it carries. -/
  author : Option Nat

/-- The calls whose texts are carried, in order. -/
def authors (posts : List Post) : List Nat := posts.filterMap Post.author

theorem authors_append (posts more : List Post) : authors (posts ++ more) = authors posts ++ authors more :=
  List.filterMap_append

/-- The written form of some frames. -/
def bytesOf (posts : List Post) : Bytes := posts.flatMap fun post => post.frame.encode

theorem bytesOf_eq (posts : List Post) : bytesOf posts = (posts.map Post.frame).flatMap Frame.encode :=
  (List.flatMap_map ..).symm

theorem bytesOf_append (posts more : List Post) : bytesOf (posts ++ more) = bytesOf posts ++ bytesOf more :=
  List.flatMap_append

/-- The frames with one author for every text. -/
def Post.of (author : Option Nat) (frame : Frame) : Post :=
  ⟨frame, if frame.opcode = .text then author else none⟩

theorem frame_of (author : Option Nat) (frames : List Frame) :
    (frames.map (Post.of author)).map Post.frame = frames := by
  rw [List.map_map]
  exact List.map_id frames

/-- An author appears once for every text. -/
theorem authors_of (n : Nat) (frames : List Frame) :
    authors (frames.map (Post.of (some n))) = List.replicate (textsOf frames).length n := by
  induction frames with
  | nil => rfl
  | cons frame frames ih =>
    unfold authors textsOf at ih ⊢
    by_cases h : frame.opcode = .text
    · simp only [List.map_cons, Post.of, h, if_true, List.filterMap_cons, List.filter_cons, decide_true,
        List.length_cons, List.replicate_succ, List.cons.injEq, true_and]
      exact ih
    · simp only [List.map_cons, Post.of, h, if_false, List.filterMap_cons, List.filter_cons, decide_false,
        Bool.false_eq_true]
      exact ih

theorem authors_of_none (frames : List Frame) : authors (frames.map (Post.of none)) = [] := by
  unfold authors
  rw [List.filterMap_map, List.filterMap_eq_nil_iff]
  intro frame _
  simp [Post.of]

/-! ## Ledgers -/

/-- **Whose text is in which frame**, if `texts` are the texts of the calls. -/
structure Ledger (base : Bytes) (texts : Nat → Option String) (s : Socket) (posts : List Post) : Prop where
  /-- The frames are those that have been written. -/
  outbound : Outbound base s (posts.map Post.frame)
  /-- A text frame carries the whole text of its author. -/
  authored : ∀ post ∈ posts, post.frame.opcode = .text →
    ∃ n text, post.author = some n ∧ texts n = some text ∧ post.frame.payload = Bytes.ofText text
  /-- Only text frames have authors. -/
  silent : ∀ post ∈ posts, post.frame.opcode ≠ .text → post.author = none

/-- The owner of the slot is the call whose text is in it. -/
def Owned (texts : Nat → Option String) : Slot → Option Nat → Prop
  | none, none => True
  | some text, some n => texts n = some text
  | _, _ => False

section ledgers

variable {base : Bytes} {texts : Nat → Option String} {s s' : Socket} {posts : List Post}

/-- **Frames of one author are added.** A text frame among them carries the text of that author. -/
theorem Ledger.add (hl : Ledger base texts s posts) {sent : List Bytes} (hposts : Posts s sent s')
    {author : Option Nat}
    (hsent : ∀ bytes ∈ sent, ∃ n text, author = some n ∧ texts n = some text ∧ bytes = Bytes.ofText text) :
    ∃ frames, Ledger base texts s' (posts ++ frames.map (Post.of author)) ∧ textsOf frames = sent := by
  obtain ⟨frames, hout, hframes⟩ := hposts.outbound hl.outbound
  refine ⟨frames, ?_, hframes⟩
  constructor
  case outbound =>
    rw [List.map_append, frame_of]
    exact hout
  case authored =>
    intro post hmem hopcode
    rcases List.mem_append.mp hmem with hm | hm
    · exact hl.authored post hm hopcode
    · obtain ⟨frame, hframe, rfl⟩ := List.mem_map.mp hm
      have hpayload : frame.payload ∈ textsOf frames :=
        List.mem_map_of_mem (List.mem_filter.mpr ⟨hframe, decide_eq_true hopcode⟩)
      rw [hframes] at hpayload
      obtain ⟨n, text, hauthor, htext, hbytes⟩ := hsent _ hpayload
      exact ⟨n, text, (if_pos hopcode).trans hauthor, htext, hbytes⟩
  case silent =>
    intro post hmem hopcode
    rcases List.mem_append.mp hmem with hm | hm
    · exact hl.silent post hm hopcode
    · obtain ⟨frame, _, rfl⟩ := List.mem_map.mp hm
      exact if_neg hopcode

/-- **Texts of one author are added.** -/
theorem Ledger.extend (hl : Ledger base texts s posts) {sent : List Bytes} (hposts : Posts s sent s') {n : Nat}
    {text : String} (htext : texts n = some text) (hsent : ∀ bytes ∈ sent, bytes = Bytes.ofText text) :
    ∃ more, Ledger base texts s' (posts ++ more) ∧ authors more = List.replicate sent.length n := by
  obtain ⟨frames, hl', hframes⟩ := hl.add hposts fun bytes hmem => ⟨n, text, rfl, htext, hsent bytes hmem⟩
  exact ⟨_, hl', by rw [authors_of, hframes]⟩

/-- **Nothing but pongs and close frames is added.** -/
theorem Ledger.quiet (hl : Ledger base texts s posts) (hposts : Posts s [] s') :
    ∃ more, Ledger base texts s' (posts ++ more) ∧ authors more = [] := by
  have hnone : ∀ bytes ∈ ([] : List Bytes), ∃ n text, (none : Option Nat) = some n ∧ texts n = some text ∧
      bytes = Bytes.ofText text := by
    intro bytes hmem
    cases hmem
  obtain ⟨frames, hl', _⟩ := hl.add hposts hnone
  exact ⟨_, hl', authors_of_none frames⟩

/-- **What the writing half makes of the owner of the slot**, if `more` are the authors of the frames that it adds. The
    owner stays, or becomes an author, or drops out. -/
structure Passes (s : Socket) (result : Attempt Socket.Error Unit) (owner : Option Nat) (more : List Nat)
    (owner' : Option Nat) : Prop where
  /-- Nobody else comes in. -/
  line : (more ++ owner'.toList).Sublist owner.toList
  /-- The owner drops out only if the call fails. -/
  kept : (∀ cause, result ≠ .error cause) → more ++ owner'.toList = owner.toList
  /-- It drops out only once somebody closes the connection. -/
  active : s.phase = .active → more ++ owner'.toList = owner.toList
  /-- And then it does not become an author. -/
  silent : s.phase ≠ .active → more = []

/-- **What the writing half does to a ledger.** -/
theorem Ledger.handles (hl : Ledger base texts s posts) {slot : Slot} {owner : Option Nat}
    (howned : Owned texts slot owner) {result : Slot.Result} {sent : List Bytes}
    (hhandles : Slot.Handles slot s result sent) :
    ∃ more owner', Ledger base texts result.2.2 (posts ++ more) ∧ Owned texts result.2.1 owner' ∧
      Passes s result.1 owner (authors more) owner' := by
  obtain ⟨hposts, hfate, hkept, hactive, hsilent⟩ := hhandles
  generalize result.2.1 = slot' at hfate hkept hactive ⊢
  cases hfate with
  | stays =>
    obtain ⟨more, hl', hmore⟩ := hl.quiet hposts
    refine ⟨more, owner, hl', howned, ?_⟩
    rw [hmore]
    exact ⟨List.Sublist.refl _, fun _ => rfl, fun _ => rfl, fun _ => rfl⟩
  | posted text =>
    cases owner with
    | none => exact False.elim howned
    | some n =>
      obtain ⟨more, hl', hmore⟩ := hl.extend hposts howned (by simp)
      refine ⟨more, none, hl', trivial, ?_⟩
      rw [hmore]
      exact ⟨List.Sublist.refl _, fun _ => rfl, fun _ => rfl, fun hno => (by cases hsilent hno)⟩
  | lost text =>
    obtain ⟨more, hl', hmore⟩ := hl.quiet hposts
    refine ⟨more, none, hl', trivial, ?_⟩
    rw [hmore]
    exact ⟨List.nil_sublist _, fun hfine => (by cases hkept hfine), fun ha => (by cases hactive ha), fun _ => rfl⟩

/-- **A new text in the slot**: its owner comes behind the author of what was there before. -/
theorem Ledger.feed (hl : Ledger base texts s posts) {slot : Slot} {owner : Option Nat}
    (howned : Owned texts slot owner) (hposts : Posts s slot.texts s') :
    ∃ more, Ledger base texts s' (posts ++ more) ∧ authors more = owner.toList := by
  cases slot with
  | none =>
    cases owner with
    | none => exact hl.quiet hposts
    | some n => exact False.elim howned
  | some text =>
    cases owner with
    | none => exact False.elim howned
    | some n => exact hl.extend hposts howned (by simp [Slot.texts])

/-- Changes that writing does not see. -/
theorem Ledger.congr (hl : Ledger base texts s posts) (hout : Outbound base s' (posts.map Post.frame)) :
    Ledger base texts s' posts :=
  ⟨hout, hl.authored, hl.silent⟩

/-- More calls have texts. -/
theorem Ledger.mono {texts' : Nat → Option String} (hl : Ledger base texts s posts)
    (hmore : ∀ n text, texts n = some text → texts' n = some text) : Ledger base texts' s posts where
  outbound := hl.outbound
  authored post hmem hopcode := by
    obtain ⟨n, text, hauthor, htext, hpayload⟩ := hl.authored post hmem hopcode
    exact ⟨n, text, hauthor, hmore n text htext, hpayload⟩
  silent := hl.silent

/-- An empty slot has no owner. -/
theorem Owned.toList_eq_nil {slot : Slot} {owner : Option Nat} (howned : Owned texts slot owner)
    (hempty : slot.texts = []) : owner.toList = [] := by
  cases slot with
  | some text => cases hempty
  | none =>
    cases owner with
    | none => rfl
    | some n => exact False.elim howned

theorem Owned.mono {texts' : Nat → Option String} {slot : Slot} {owner : Option Nat}
    (howned : Owned texts slot owner) (hmore : ∀ n text, texts n = some text → texts' n = some text) :
    Owned texts' slot owner := by
  cases slot <;> cases owner
  · trivial
  · exact howned
  · exact howned
  · exact hmore _ _ howned

end ledgers

end TextSocket.Connection
