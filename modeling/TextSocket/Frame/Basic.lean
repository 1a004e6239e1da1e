import TextSocket.Bytes

/-!
# `TextSocket.Frame` — the units that a socket carries

A frame has an opcode, a payload, a mark on the last frame of a message, three reserved bits, and, if a client
has sent it, a key that masks the payload. Its written form states the length of the payload in 7, 16 or 64 bits,
whichever is the shortest.

## Contents

* `Opcode`, `MaskKey`, `Frame` — the parts of a frame;
* `MaskKey.apply` — masking, which is its own inverse;
* `Frame.encode` — the written form.
-/

namespace TextSocket

/-! ## Opcodes -/

/-- What a frame is for. -/
inductive Opcode where
  /-- It continues a message. -/
  | continuation
  /-- It begins a text. -/
  | text
  /-- It begins a binary message. -/
  | binary
  /-- It ends the connection. -/
  | close
  /-- It asks for a pong. -/
  | ping
  /-- It answers a ping. -/
  | pong
  deriving DecidableEq, Repr

namespace Opcode

/-- The number of an opcode. -/
def code : Opcode → Nat
  | continuation => 0
  | text => 1
  | binary => 2
  | close => 8
  | ping => 9
  | pong => 10

/-- The opcode of a number. -/
def ofCode? : Nat → Option Opcode
  | 0 => some continuation
  | 1 => some text
  | 2 => some binary
  | 8 => some close
  | 9 => some ping
  | 10 => some pong
  | _ => none

theorem ofCode?_code (opcode : Opcode) : ofCode? opcode.code = some opcode := by
  cases opcode <;> rfl

/-- Whether a frame stands on its own, even within a message. -/
def isControl : Opcode → Bool
  | close | ping | pong => true
  | _ => false

end Opcode

/-! ## Masks -/

/-- The key of a mask: four bytes. -/
structure MaskKey where
  /-- First byte. -/
  a : UInt8
  /-- Second byte. -/
  b : UInt8
  /-- Third byte. -/
  c : UInt8
  /-- Fourth byte. -/
  d : UInt8
  deriving DecidableEq, Repr

namespace MaskKey

/-- The bytes of a key. -/
def bytes (key : MaskKey) : Bytes := [key.a, key.b, key.c, key.d]

/-- The byte of a key that masks the byte at a place of the payload. -/
def byteAt (key : MaskKey) (place : Nat) : UInt8 :=
  match place % 4 with
  | 0 => key.a
  | 1 => key.b
  | 2 => key.c
  | _ => key.d

/-- Masks a payload, or takes the mask off. -/
def apply (key : MaskKey) (payload : Bytes) : Bytes :=
  payload.mapIdx fun place byte => byte ^^^ key.byteAt place

theorem length_apply (key : MaskKey) (payload : Bytes) : (key.apply payload).length = payload.length := by
  simp [apply]

theorem apply_apply (key : MaskKey) (payload : Bytes) : key.apply (key.apply payload) = payload := by
  apply List.ext_getElem
  · simp [length_apply]
  · intro i h₁ h₂
    simp only [apply, List.getElem_mapIdx, UInt8.xor_assoc, UInt8.xor_self, UInt8.xor_zero]

end MaskKey

/-! ## Frames -/

/-- A frame. -/
structure Frame where
  /-- Whether it is the last frame of a message. -/
  final : Bool
  /-- The reserved bits, as a number below 8. -/
  reserved : Nat
  /-- What the frame is for. -/
  opcode : Opcode
  /-- The key that masks the payload on its way. -/
  mask : Option MaskKey
  /-- The payload, without the mask. -/
  payload : Bytes
  deriving DecidableEq, Repr

namespace Frame

/-- An unmasked frame that is a message of its own. -/
def whole (opcode : Opcode) (payload : Bytes) : Frame := ⟨true, 0, opcode, none, payload⟩

/-- The number of bytes that extend the length of a payload. -/
def lengthBytes (length : Nat) : Nat :=
  if length < 126 then 0 else if length < 65536 then 2 else 8

/-- The seven bits that stand for the length of a payload. -/
def lengthCode (length : Nat) : Nat :=
  if length < 126 then length else if length < 65536 then 126 else 127

/-- The first byte of a frame. -/
def firstByte (frame : Frame) : UInt8 :=
  UInt8.ofNat ((if frame.final then 128 else 0) + frame.reserved * 16 + frame.opcode.code)

/-- The second byte of a frame. -/
def secondByte (frame : Frame) : UInt8 :=
  UInt8.ofNat ((if frame.mask.isSome then 128 else 0) + lengthCode frame.payload.length)

/-- The key and the masked payload. -/
def body (frame : Frame) : Bytes :=
  match frame.mask with
  | some key => key.bytes ++ key.apply frame.payload
  | none => frame.payload

/-- The written form. -/
def encode (frame : Frame) : Bytes :=
  frame.firstByte :: frame.secondByte ::
    (Bytes.ofNat (lengthBytes frame.payload.length) frame.payload.length ++ frame.body)

end Frame

end TextSocket
