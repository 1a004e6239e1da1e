import TextSocket.Proofs.Connection.Ledger
import TextSocket.Proofs.Connection.Receiving

/-!
# `Proofs.Connection.Images` — what a reader makes of texts that are written

A text comes back as it is, an empty text as a failure of its own, and one that is too long for a frame as another
failure, behind which there is nothing to read (`image`).

The frames that one end writes are messages to the other one (`carries_posts`), up to the first one that is too long.
So what is known of reads for any stream (`Receives`, `Refuses`) says what the reads make of these frames: nothing but
images, in order (`results_image`), and the next read makes the next one (`step_image`).

## Contents

* `image` — what the reads make of texts; `image_append`, `image_mono`;
* `Plain`, `textsIn`, `carries_posts` — frames of one end as messages to the other;
* `results_image`, `step_image` — the reads of the other end.
-/

namespace TextSocket

/-- The other end. -/
def Socket.Role.other : Socket.Role → Socket.Role
  | .client => .server
  | .server => .client

namespace Connection

open Socket (Carries Content Legible Role frameLimit)

/-! ## Images -/

/-- **What the `i`-th of the reads makes of texts** that are written in this order. -/
def image : List String → Nat → Option Call.Outcome
  | [], _ => none
  | text :: texts, i =>
    if frameLimit < (Bytes.ofText text).length then some (.failed (if i = 0 then .badBuffer else .connectionClosed))
    else if i = 0 then some (report (.text text))
    else image texts (i - 1)

/-- Texts that are short enough come back one by one. -/
theorem image_append {front : List String} (hshort : ∀ text ∈ front, (Bytes.ofText text).length ≤ frameLimit)
    (back : List String) (i : Nat) : image (front ++ back) i =
      if i < front.length then (front.map fun text => report (.text text))[i]?
      else image back (i - front.length) := by
  induction front generalizing i with
  | nil => rfl
  | cons text front ih =>
    have hfits := hshort text List.mem_cons_self
    rw [List.cons_append, image, if_neg (by omega)]
    cases i with
    | zero => rfl
    | succ i =>
      rw [if_neg (by omega), Nat.add_sub_cancel, ih (fun other hmem => hshort other (List.mem_cons_of_mem _ hmem))]
      simp only [List.length_cons, List.map_cons, List.getElem?_cons_succ, Nat.add_lt_add_iff_right,
        Nat.add_sub_add_right]

/-- What comes of a text depends on the texts up to it. -/
theorem image_left {front : List String} {i : Nat} (hi : i < front.length) (back : List String) :
    image (front ++ back) i = image front i := by
  induction front generalizing i with
  | nil => cases hi
  | cons text front ih =>
    rw [List.cons_append, image, image]
    by_cases hlong : frameLimit < (Bytes.ofText text).length
    · rw [if_pos hlong, if_pos hlong]
    · rw [if_neg hlong, if_neg hlong]
      by_cases hzero : i = 0
      · rw [if_pos hzero, if_pos hzero]
      · rw [List.length_cons] at hi
        rw [if_neg hzero, if_neg hzero, ih (by omega)]

/-- Texts that are written later change no image. -/
theorem image_mono {texts more : List String} (hbegins : texts <+: more) {i : Nat} {outcome : Call.Outcome}
    (himage : image texts i = some outcome) : image more i = some outcome := by
  obtain ⟨back, rfl⟩ := hbegins
  induction texts generalizing i with
  | nil => cases himage
  | cons text texts ih =>
    rw [List.cons_append]
    unfold image at himage ⊢
    by_cases hlong : frameLimit < (Bytes.ofText text).length
    · rw [if_pos hlong] at himage ⊢
      exact himage
    · rw [if_neg hlong] at himage ⊢
      by_cases hzero : i = 0
      · rw [if_pos hzero] at himage ⊢
        exact himage
      · rw [if_neg hzero] at himage ⊢
        exact ih himage

/-! ## Frames as messages -/

/-- A frame of one end that closes nothing: a text with its author, or a pong. -/
structure Plain (texts : Nat → Option String) (role : Role) (post : Post) : Prop where
  /-- It is one that a socket may write. -/
  proper : post.frame.Proper
  /-- It is no close frame. -/
  opening : post.frame.opcode ≠ .close
  /-- It is masked exactly if a client has written it. -/
  masked : post.frame.mask.isSome = true ↔ role = .client
  /-- A text frame carries the whole text of its author. -/
  authored : post.frame.opcode = .text →
    ∃ n text, post.author = some n ∧ texts n = some text ∧ post.frame.payload = Bytes.ofText text
  /-- Only text frames have authors. -/
  silent : post.frame.opcode ≠ .text → post.author = none

/-- The texts that frames carry. -/
def textsIn (texts : Nat → Option String) (posts : List Post) : List String := (authors posts).filterMap texts

section posts

variable {texts : Nat → Option String} {role : Role} {post : Post} {posts : List Post}

theorem textsIn_append (texts : Nat → Option String) (posts more : List Post) :
    textsIn texts (posts ++ more) = textsIn texts posts ++ textsIn texts more := by
  unfold textsIn
  rw [authors_append, List.filterMap_append]

theorem textsIn_cons (texts : Nat → Option String) (post : Post) (posts : List Post) :
    textsIn texts (post :: posts) = textsIn texts [post] ++ textsIn texts posts :=
  textsIn_append texts [post] posts

/-- What a frame carries: a text, or nothing. -/
theorem Plain.cases (h : Plain texts role post) :
    (∃ text, post.frame.opcode = .text ∧ post.frame.payload = Bytes.ofText text ∧
        textsIn texts [post] = [text]) ∨
      post.frame.opcode = .pong ∧ post.frame.payload.length ≤ 125 ∧ textsIn texts [post] = [] := by
  unfold textsIn authors
  rcases h.proper.kind with htext | hclose | hpong
  · obtain ⟨n, text, hauthor, hn, hpayload⟩ := h.authored htext
    exact Or.inl ⟨text, htext, hpayload, by simp [hauthor, hn]⟩
  · exact absurd hclose h.opening
  · have hsilent := h.silent (by rw [hpong]; simp)
    have hshort := (h.proper.control (by rw [hpong]; rfl)).2
    exact Or.inr ⟨hpong, hshort, by simp [hsilent]⟩

/-- The other end can read a frame that is short enough. -/
theorem Plain.legible (h : Plain texts role post) (hshort : post.frame.payload.length ≤ frameLimit) :
    Legible role.other post.frame := by
  refine ⟨h.proper.reserved, hshort, h.masked.trans ?_⟩
  cases role with
  | client => exact ⟨fun _ => rfl, fun _ => rfl⟩
  | server => exact ⟨fun he => (by cases he), fun he => (by cases he)⟩

/-- **Frames carry their texts.** -/
theorem carries_posts (hplain : ∀ post ∈ posts, Plain texts role post) :
    Carries none (posts.map Post.frame) ((textsIn texts posts).map Content.text) := by
  induction posts with
  | nil => exact .done
  | cons post posts ih =>
    have hrest := ih fun other hmem => hplain other (List.mem_cons_of_mem _ hmem)
    have hpost := hplain post List.mem_cons_self
    rw [List.map_cons, textsIn_cons, List.map_append]
    rcases hpost.cases with ⟨text, hopcode, hpayload, htexts⟩ | ⟨hopcode, hshort, htexts⟩
    · rw [htexts]
      exact .whole hopcode hpost.proper.final hpayload hrest
    · rw [htexts]
      exact .beat (Or.inr hopcode) hpost.proper.final hshort hrest

theorem short_of_mem_textsIn (hplain : ∀ post ∈ posts, Plain texts role post)
    (hshort : ∀ post ∈ posts, post.frame.payload.length ≤ frameLimit) :
    ∀ text ∈ textsIn texts posts, (Bytes.ofText text).length ≤ frameLimit := by
  induction posts with
  | nil => intro text hmem; cases hmem
  | cons post posts ih =>
    intro text hmem
    rw [textsIn_cons, List.mem_append] at hmem
    rcases hmem with hmem | hmem
    · rcases (hplain post List.mem_cons_self).cases with ⟨own, _, hpayload, htexts⟩ | ⟨_, _, htexts⟩
      · rw [htexts, List.mem_singleton] at hmem
        rw [hmem, ← hpayload]
        exact hshort post List.mem_cons_self
      · rw [htexts] at hmem
        cases hmem
    · exact ih (fun other hmem => hplain other (List.mem_cons_of_mem _ hmem))
        (fun other hmem => hshort other (List.mem_cons_of_mem _ hmem)) text hmem

/-- Frames are short enough, or there is a first one that is not. -/
theorem short_or_long (posts : List Post) : (∀ post ∈ posts, post.frame.payload.length ≤ frameLimit) ∨
    ∃ front post back, posts = front ++ post :: back ∧
      (∀ post ∈ front, post.frame.payload.length ≤ frameLimit) ∧ frameLimit < post.frame.payload.length := by
  induction posts with
  | nil => exact Or.inl fun post hmem => by cases hmem
  | cons post posts ih =>
    by_cases hpost : post.frame.payload.length ≤ frameLimit
    · rcases ih with hall | ⟨front, long, back, rfl, hfront, hlong⟩
      · exact Or.inl (List.forall_mem_cons.mpr ⟨hpost, hall⟩)
      · exact Or.inr ⟨post :: front, long, back, rfl, List.forall_mem_cons.mpr ⟨hpost, hfront⟩, hlong⟩
    · exact Or.inr ⟨[], post, posts, rfl, fun other hmem => (by cases hmem), by omega⟩

end posts

/-! ## The reads of the other end -/

/-- **A history that keeps the law**, whatever the frames that come in. -/
def Attentive (role : Role) (h : History) : Prop :=
  ∀ frames contents tail, (∀ frame ∈ frames, Legible role frame) → Carries none frames contents →
    Receiving frames contents tail h

section reads

variable {h : History} {role : Role} {texts : Nat → Option String} {posts front back : List Post} {post : Post}
  {future more : Bytes}

/-- The law for frames that are short enough. -/
theorem Attentive.receiving (hr : Attentive role.other h) (hplain : ∀ post ∈ posts, Plain texts role post)
    (hshort : ∀ post ∈ posts, post.frame.payload.length ≤ frameLimit) (tail : Bytes) :
    Receiving (posts.map Post.frame) ((textsIn texts posts).map Content.text) tail h := by
  have hlegible : ∀ frame ∈ posts.map Post.frame, Legible role.other frame := by
    intro frame hmem
    obtain ⟨post, hpost, rfl⟩ := List.mem_map.mp hmem
    exact (hplain post hpost).legible (hshort post hpost)
  exact hr _ _ tail hlegible (carries_posts hplain)

/-- A frame that is too long is seen to be so. -/
theorem Plain.decode_eq (h : Plain texts role post) (hlong : frameLimit < post.frame.payload.length) (rest : Bytes) :
    Frame.decode (some frameLimit) (post.frame.encode ++ rest) = .tooLong post.frame.payload.length := by
  have hreserved : post.frame.reserved < 8 := by
    rw [h.proper.reserved]
    decide
  have hlength : post.frame.payload.length < 0x10000000000000000 := Nat.lt_of_lt_of_le h.proper.length (by decide)
  exact Frame.decode_encode_tooLong hreserved hlength hlong rest

theorem bytesOf_long (front : List Post) (post : Post) (back : List Post) (more : Bytes) :
    bytesOf (front ++ post :: back) ++ more =
      (front.map Post.frame).flatMap Frame.encode ++ (post.frame.encode ++ (bytesOf back ++ more)) := by
  rw [bytesOf_append, ← bytesOf_eq, List.append_assoc]
  show _ ++ (post.frame.encode ++ bytesOf back ++ more) = _
  rw [List.append_assoc]

/-- What the reads make of frames that are short enough. -/
theorem Attentive.receives (hr : Attentive role.other h) (hopen : h.connection.socket.wire.ending = .open)
    (hplain : ∀ post ∈ posts, Plain texts role post)
    (hshort : ∀ post ∈ posts, post.frame.payload.length ≤ frameLimit)
    (hstream : h.arrived ++ future = bytesOf posts ++ more) :
    Receives h ((textsIn texts posts).map Content.text) more future := by
  rw [bytesOf_eq] at hstream
  exact (hr.receiving hplain hshort more).receives hstream fun hended => by rw [hopen] at hended; cases hended

/-- What the reads make of the first frame that is too long. -/
theorem Attentive.refuses (hr : Attentive role.other h) (hopen : h.connection.socket.wire.ending = .open)
    (hplain : ∀ other ∈ front ++ post :: back, Plain texts role other)
    (hshort : ∀ other ∈ front, other.frame.payload.length ≤ frameLimit)
    (hlong : frameLimit < post.frame.payload.length)
    (hstream : h.arrived ++ future = bytesOf (front ++ post :: back) ++ more) :
    Refuses h ((textsIn texts front).map Content.text) future := by
  have hpost := hplain post (List.mem_append_right _ List.mem_cons_self)
  have hfront := fun other hmem => hplain other (List.mem_append_left _ hmem)
  rw [bytesOf_long] at hstream
  exact (hr.receiving hfront hshort _).refuses hstream hopen (hpost.decode_eq hlong _)

/-- **Texts and pongs close nothing**, not even a text that is too long. -/
theorem Attentive.active (hr : Attentive role.other h) (hopen : h.connection.socket.wire.ending = .open)
    (hplain : ∀ post ∈ posts, Plain texts role post) (hstream : h.arrived ++ future = bytesOf posts) :
    h.connection.socket.phase = .active := by
  rw [← List.append_nil (bytesOf posts)] at hstream
  rcases short_or_long posts with hshort | ⟨front, post, back, rfl, hshort, hlong⟩
  · rw [bytesOf_eq] at hstream
    exact (hr.receiving hplain hshort []).active hstream hopen (Or.inl rfl)
  · have hpost := hplain post (List.mem_append_right _ List.mem_cons_self)
    have hfront := fun other hmem => hplain other (List.mem_append_left _ hmem)
    rw [bytesOf_long] at hstream
    exact (hr.receiving hfront hshort _).active hstream hopen (Or.inr ⟨_, hpost.decode_eq hlong _⟩)

/-- The texts of frames up to one that is too long. -/
theorem textsIn_long (hplain : ∀ other ∈ front ++ post :: back, Plain texts role other)
    (hlong : frameLimit < post.frame.payload.length) : ∃ text, frameLimit < (Bytes.ofText text).length ∧
      textsIn texts (front ++ post :: back) = textsIn texts front ++ text :: textsIn texts back := by
  rw [textsIn_append, textsIn_cons]
  rcases (hplain post (List.mem_append_right _ List.mem_cons_self)).cases with
    ⟨text, _, hpayload, htexts⟩ | ⟨_, hshort, _⟩
  · rw [hpayload] at hlong
    rw [htexts]
    exact ⟨text, hlong, rfl⟩
  · have hlimit : 125 < frameLimit := by decide
    omega

/-- What a read reports that belongs to a text which is short enough. -/
theorem image_of_prefix {reported : List String} {outcomes : List Call.Outcome}
    (hshort : ∀ text ∈ reported, (Bytes.ofText text).length ≤ frameLimit)
    (hbegins : outcomes <+: (reported.map Content.text).map report) (later : List String) {i : Nat}
    {outcome : Call.Outcome} (hresult : outcomes[i]? = some outcome) :
    image (reported ++ later) i = some outcome := by
  obtain ⟨rest, hrest⟩ := hbegins
  obtain ⟨hlength, _⟩ := List.getElem?_eq_some_iff.mp hresult
  have hreport : (reported.map fun text => report (.text text))[i]? = some outcome := by
    rw [List.map_map] at hrest
    show (reported.map (report ∘ Content.text))[i]? = _
    rw [← hrest, List.getElem?_append_left hlength]
    exact hresult
  obtain ⟨hi, _⟩ := List.getElem?_eq_some_iff.mp hreport
  rw [List.length_map] at hi
  rw [image_append hshort, if_pos hi]
  exact hreport

/-- **Reads report nothing but images, in order.** -/
theorem results_image (hr : Attentive role.other h) (hopen : h.connection.socket.wire.ending = .open)
    (hplain : ∀ post ∈ posts, Plain texts role post) (hstream : h.arrived ++ future = bytesOf posts) {i : Nat}
    {outcome : Call.Outcome} (hresult : (results h)[i]? = some outcome) :
    image (textsIn texts posts) i = some outcome := by
  rw [← List.append_nil (bytesOf posts)] at hstream
  rcases short_or_long posts with hshort | ⟨front, post, back, rfl, hshort, hlong⟩
  · have hreceives := hr.receives hopen hplain hshort hstream
    rcases hreceives.inOrder with hbegins | ⟨_, hmet⟩
    · rw [← List.append_nil (textsIn texts posts)]
      exact image_of_prefix (short_of_mem_textsIn hplain hshort) hbegins [] hresult
    · -- nothing comes behind the frames
      exact absurd rfl (hmet hopen)
  · have hrefuses : Refuses h ((textsIn texts front).map Content.text) future :=
      hr.refuses hopen hplain hshort hlong hstream
    have hfront := short_of_mem_textsIn (fun other hmem => hplain other (List.mem_append_left _ hmem)) hshort
    obtain ⟨text, htext, htexts⟩ := textsIn_long hplain hlong
    rw [htexts]
    rcases hrefuses.inOrder with hbegins | ⟨k, hk⟩
    · exact image_of_prefix hfront hbegins _ hresult
    · -- the result belongs to a text in front, to the one that is too long, or to the end behind it
      by_cases hi : i < (textsIn texts front).length
      · refine image_of_prefix hfront List.prefix_rfl _ ?_
        rw [hk, List.getElem?_append_left (by simpa using hi)] at hresult
        exact hresult
      · rw [hk, List.getElem?_append_right (by simpa using hi)] at hresult
        rw [image_append hfront, if_neg hi, image, if_pos htext]
        simp only [List.length_map] at hresult
        generalize i - (textsIn texts front).length = j at hresult ⊢
        cases j with
        | zero => exact hresult
        | succ j =>
          rw [List.getElem?_cons_succ, List.getElem?_replicate] at hresult
          split at hresult
          · exact hresult
          · cases hresult

/-- A text that is short enough is a message, so the next read reports it. -/
theorem Receives.step_image {reported : List String} {rest : Bytes}
    (hreceives : Receives h (reported.map Content.text) rest [])
    (hshort : ∀ text ∈ reported, (Bytes.ofText text).length ≤ frameLimit) (later : List String)
    (hlength : (results h).length < reported.length) {n : Nat} (hgrants : h.connection.grants .reading n = true)
    {outcome : Call.Outcome} (himage : image (reported ++ later) (results h).length = some outcome) (now : Nat) :
    (h.connection.step now n).outcome? n = some outcome := by
  rw [image_append hshort, if_pos hlength, List.getElem?_map] at himage
  obtain ⟨text, htext, rfl⟩ := Option.map_eq_some_iff.mp himage
  refine hreceives.next rfl hgrants (.text text) ?_ now
  rw [List.getElem?_map, htext]
  rfl

/-- **The next read reports the next image**, when the frames have arrived. -/
theorem step_image (hr : Attentive role.other h) (hopen : h.connection.socket.wire.ending = .open)
    (hplain : ∀ post ∈ posts, Plain texts role post) (hstream : h.arrived = bytesOf posts ++ more) {n : Nat}
    (hgrants : h.connection.grants .reading n = true) {outcome : Call.Outcome}
    (himage : image (textsIn texts posts) (results h).length = some outcome) (now : Nat) :
    (h.connection.step now n).outcome? n = some outcome := by
  rw [← List.append_nil h.arrived] at hstream
  rcases short_or_long posts with hshort | ⟨front, post, back, rfl, hshort, hlong⟩
  · have hfits := short_of_mem_textsIn hplain hshort
    rw [← List.append_nil (textsIn texts posts)] at himage
    have hlength : (results h).length < (textsIn texts posts).length := by
      rw [image_append hfits] at himage
      split at himage
      · assumption
      · cases himage
    exact (hr.receives hopen hplain hshort hstream).step_image hfits [] hlength hgrants himage now
  · have hfront : ∀ post ∈ front, Plain texts role post :=
      fun other hmem => hplain other (List.mem_append_left _ hmem)
    have hfits := short_of_mem_textsIn hfront hshort
    obtain ⟨text, htext, htexts⟩ := textsIn_long hplain hlong
    rw [htexts] at himage
    by_cases hlength : (results h).length < (textsIn texts front).length
    · rw [bytesOf_append, List.append_assoc] at hstream
      exact (hr.receives hopen hfront hshort hstream).step_image hfits _ hlength hgrants himage now
    · have hrefuses : Refuses h ((textsIn texts front).map Content.text) [] :=
        hr.refuses hopen hplain hshort hlong hstream
      have hnext := hrefuses.next rfl hgrants (by rw [List.length_map]; omega) now
      rw [image_append hfits, if_neg hlength, image, if_pos htext] at himage
      rw [hnext, ← himage, List.length_map]
      by_cases he : (results h).length = (textsIn texts front).length
      · rw [if_pos he, if_pos (by omega)]
      · rw [if_neg he, if_neg (by omega)]

end reads

end Connection

end TextSocket
