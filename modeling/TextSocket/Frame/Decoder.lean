import TextSocket.Frame.Basic

/-!
# `TextSocket.Frame.Decoder` — reading frames

Reading looks at the bytes that have arrived and takes nothing unless a whole frame is there. A frame that
cannot be carried is refused as soon as its header is complete: first for its opcode, then for its length.

## Contents

* `Frame.Header`, `Frame.readHeader` — everything in front of the payload;
* `Frame.Decoded`, `Frame.decode` — a whole frame.
-/

namespace TextSocket.Frame

/-! ## Headers -/

/-- Everything in front of the payload. -/
structure Header where
  /-- Whether the frame is the last one of a message. -/
  final : Bool
  /-- The reserved bits. -/
  reserved : Nat
  /-- The number of the opcode. -/
  opcode : Nat
  /-- The key of the mask. -/
  mask : Option MaskKey
  /-- The length of the payload. -/
  length : Nat
  deriving DecidableEq, Repr

/-- The number of bytes that extend a length of seven bits. -/
def extraBytes (code : Nat) : Nat := if code = 126 then 2 else if code = 127 then 8 else 0

/-- Reads the key of a mask, if there is to be one. -/
def readMask (masked : Bool) (bytes : Bytes) : Option (Option MaskKey × Bytes) :=
  if masked then
    match bytes with
    | a :: b :: c :: d :: rest => some (some ⟨a, b, c, d⟩, rest)
    | _ => none
  else some (none, bytes)

/-- Reads a header; none if its bytes have not all arrived. -/
def readHeader (bytes : Bytes) : Option (Header × Bytes) :=
  match bytes with
  | first :: second :: rest =>
    let code := second.toNat % 128
    let extra := extraBytes code
    if rest.length < extra then none
    else
      let length := if extra = 0 then code else Bytes.toNat (rest.take extra)
      (readMask (128 ≤ second) (rest.drop extra)).map fun (mask, rest) =>
        (⟨128 ≤ first, first.toNat / 16 % 8, first.toNat % 16, mask, length⟩, rest)
  | _ => none

/-! ## Frames -/

/-- What the bytes that have arrived amount to. -/
inductive Decoded where
  /-- A whole frame, and the bytes behind it. -/
  | frame (frame : Frame) (rest : Bytes)
  /-- A part of a frame. -/
  | unfinished
  /-- A frame with an opcode that stands for nothing. -/
  | badOpcode (code : Nat)
  /-- A frame that is longer than the limit. -/
  | tooLong (length : Nat)
  deriving DecidableEq

/-- The payload behind a header, without its mask. -/
def unmask (mask : Option MaskKey) (payload : Bytes) : Bytes :=
  match mask with
  | some key => key.apply payload
  | none => payload

/-- Reads a frame whose payload is not longer than the limit, if there is one. -/
def decode (limit : Option Nat) (bytes : Bytes) : Decoded :=
  match readHeader bytes with
  | none => .unfinished
  | some (header, rest) =>
    match Opcode.ofCode? header.opcode with
    | none => .badOpcode header.opcode
    | some opcode =>
      if limit.any (· < header.length) then .tooLong header.length
      else if rest.length < header.length then .unfinished
      else
        .frame
          ⟨header.final, header.reserved, opcode, header.mask,
            unmask header.mask (rest.take header.length)⟩
          (rest.drop header.length)

end TextSocket.Frame
