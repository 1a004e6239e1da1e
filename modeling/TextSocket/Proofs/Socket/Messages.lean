import TextSocket.Proofs.Frame.Codec
import TextSocket.Proofs.Text.Utf8
import TextSocket.Socket.Basic

/-!
# `Proofs.Socket.Messages` — the messages that frames carry

A message comes in one frame or in several, and pings and pongs may stand anywhere, also between its fragments.
`Carries` says which messages a list of frames carries. It is a grammar, and knows nothing of sockets: a fragment may
end within a character, and a fragment may be empty.

What a socket has of a message whose fragments are still to come is described against that grammar (`Assembles`):
the bytes so far are a part of the content from the front. So **a fragment is never refused** (`Assembles.add`), and
the last one completes the content (`Assembles.complete`).

## Contents

* `Content`, `Legible`, `Carries` — messages and frames;
* `Assembles`, `Assembles.add`, `Assembles.complete` — fragments.
-/

namespace TextSocket.Socket

open Text.Utf8 (run? boundary)

/-! ## Messages and frames -/

/-- What a message of data carries. -/
inductive Content where
  /-- A text. -/
  | text (text : String)
  /-- Bytes. -/
  | binary (bytes : Bytes)
  deriving DecidableEq, Repr

namespace Content

/-- The bytes of a content. -/
def bytes : Content → Bytes
  | .text words => Bytes.ofText words
  | .binary payload => payload

/-- Whether a content is a text. -/
def isText : Content → Bool
  | .text _ => true
  | .binary _ => false

/-- The opcode of the first frame of a content. -/
def opcode : Content → Opcode
  | .text _ => .text
  | .binary _ => .binary

/-- The message of a content. -/
def message : Content → Message
  | .text words => .text words
  | .binary payload => .binary payload

end Content

/-- A frame that a socket in a role can read: masked exactly by a client, and not longer than the limit. -/
structure Legible (role : Role) (frame : Frame) : Prop where
  /-- No reserved bit is set. -/
  reserved : frame.reserved = 0
  /-- It is not longer than the limit. -/
  short : frame.payload.length ≤ frameLimit
  /-- It is masked exactly if a client has sent it. -/
  masked : frame.mask.isSome = true ↔ role = .server

/-- **The messages that frames carry**, behind the part of a message that is given with its content. The frames may
    end within a message. -/
inductive Carries : Option (Content × Bytes) → List Frame → List Content → Prop where
  /-- No frame carries nothing. -/
  | done {under : Option (Content × Bytes)} : Carries under [] []
  /-- A ping or a pong carries nothing, and may stand anywhere. -/
  | beat {under : Option (Content × Bytes)} {frame : Frame} {frames : List Frame} {contents : List Content}
      (hopcode : frame.opcode = .ping ∨ frame.opcode = .pong) (hfinal : frame.final = true)
      (hshort : frame.payload.length ≤ 125) (hrest : Carries under frames contents) :
      Carries under (frame :: frames) contents
  /-- A message in one frame. -/
  | whole {content : Content} {frame : Frame} {frames : List Frame} {contents : List Content}
      (hopcode : frame.opcode = content.opcode) (hfinal : frame.final = true)
      (hpayload : frame.payload = content.bytes) (hrest : Carries none frames contents) :
      Carries none (frame :: frames) (content :: contents)
  /-- The first of several frames. -/
  | first {content : Content} {frame : Frame} {frames : List Frame} {contents : List Content}
      (hopcode : frame.opcode = content.opcode) (hfinal : frame.final = false)
      (hpayload : frame.payload <+: content.bytes) (hlimit : content.bytes.length ≤ messageLimit)
      (hrest : Carries (some (content, frame.payload)) frames contents) :
      Carries none (frame :: frames) contents
  /-- A further frame. -/
  | more {content : Content} {front : Bytes} {frame : Frame} {frames : List Frame} {contents : List Content}
      (hopcode : frame.opcode = .continuation) (hfinal : frame.final = false)
      (hpayload : front ++ frame.payload <+: content.bytes)
      (hrest : Carries (some (content, front ++ frame.payload)) frames contents) :
      Carries (some (content, front)) (frame :: frames) contents
  /-- The last frame. -/
  | last {content : Content} {front : Bytes} {frame : Frame} {frames : List Frame} {contents : List Content}
      (hopcode : frame.opcode = .continuation) (hfinal : frame.final = true)
      (hpayload : front ++ frame.payload = content.bytes) (hrest : Carries none frames contents) :
      Carries (some (content, front)) (frame :: frames) (content :: contents)

/-! ## Fragments -/

/-- What a socket has of a message whose fragments are still to come. -/
structure Assembles (assembly : Assembly) (content : Content) (front : Bytes) : Prop where
  /-- It knows whether it is a text. -/
  isText : assembly.isText = content.isText
  /-- It has the bytes so far. -/
  bytes : assembly.bytes = front
  /-- They are a part from the front. -/
  part : front <+: content.bytes
  /-- The message is not longer than the limit. -/
  limit : content.bytes.length ≤ messageLimit
  /-- The bytes so far have been checked. -/
  checked : content.isText = true → run? boundary front = some assembly.state

theorem assembles_start {content : Content} (hlimit : content.bytes.length ≤ messageLimit) :
    Assembles (.start content.isText) content [] :=
  ⟨rfl, rfl, List.nil_prefix, hlimit, fun _ => rfl⟩

/-- **A fragment is never refused.** -/
theorem Assembles.add {assembly : Assembly} {content : Content} {front : Bytes} (h : Assembles assembly content front)
    {fragment : Bytes} (hpart : front ++ fragment <+: content.bytes) :
    ∃ assembly', assembly.add fragment = .ok assembly' ∧ Assembles assembly' content (front ++ fragment) := by
  have hlength := hpart.length_le
  have hlimit := h.limit
  rw [List.length_append] at hlength
  unfold Assembly.add
  simp only [h.bytes]
  rw [if_neg (by omega), h.isText]
  cases content with
  | binary bytes =>
    refine ⟨_, rfl, rfl, rfl, hpart, hlimit, fun htext => ?_⟩
    cases htext
  | text text =>
    obtain ⟨back, hback⟩ := hpart
    -- the bytes so far are accepted, so the fragment is
    have htext : Bytes.ofText text = (front ++ fragment) ++ back := hback.symm
    obtain ⟨state, hstate⟩ := Text.Utf8.run?_of_ofText_eq_append htext
    have hrun := hstate
    rw [Text.Utf8.run?_append, h.checked rfl, Option.bind_some] at hrun
    rw [hrun]
    exact ⟨_, rfl, rfl, rfl, ⟨back, hback⟩, hlimit, fun _ => hstate⟩

/-- **The last fragment completes the content.** -/
theorem Assembles.complete {assembly : Assembly} {content : Content}
    (h : Assembles assembly content content.bytes) : assembly.complete = .ok content.message := by
  unfold Assembly.complete
  rw [h.isText, h.bytes]
  cases content with
  | binary bytes => rfl
  | text text =>
    simp only [Content.isText, Content.bytes, if_true]
    unfold textOf
    rw [Bytes.text?_ofText]
    rfl

/-- A content in one frame. -/
theorem message_whole (content : Content) :
    (if content.opcode = .text then textOf content.bytes else .ok (.binary content.bytes)) = .ok content.message := by
  cases content with
  | binary bytes => rfl
  | text text =>
    simp only [Content.opcode, Content.bytes, if_true]
    unfold textOf
    rw [Bytes.text?_ofText]
    rfl

end TextSocket.Socket
