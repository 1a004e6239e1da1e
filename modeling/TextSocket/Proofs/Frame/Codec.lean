import TextSocket.Frame.Decoder

/-!
# `Proofs.Frame.Codec` — frames survive their way over the stream

A frame is written and read by two functions that know nothing of each other. Two facts join them. **Reading
gives back what was written** (`decode_encode`), whatever stands behind it. And **a verdict is final**
(`decode_append`): more bytes change nothing in a frame that has been read, nor in one that has been refused.
Together they say what a part of a frame amounts to: it is never taken for another frame
(`decode_eq_unfinished`), however the stream was cut.

## Contents

* `Frame.WellFormed` — the frames that the protocol allows;
* `readHeader_encode`, `decode_encode`, `decode_encode_tooLong` — reading what was written;
* `readHeader_append`, `decode_append` — verdicts are final;
* `decode_eq_unfinished` — a part of a frame.
-/

namespace TextSocket.Frame

/-! ## Frames that the protocol allows -/

/-- A frame that the protocol allows: no reserved bit is set, the length fits in 63 bits, and a control frame is
    short and not a fragment. -/
structure WellFormed (frame : Frame) : Prop where
  /-- No reserved bit is set. -/
  reserved : frame.reserved = 0
  /-- The length fits in 63 bits. -/
  length : frame.payload.length < 0x8000000000000000
  /-- A control frame is short and not a fragment. -/
  control : frame.opcode.isControl = true → frame.final = true ∧ frame.payload.length ≤ 125

/-! ## Reading what was written -/

/-- The header of a frame. -/
def header (frame : Frame) : Header :=
  ⟨frame.final, frame.reserved, frame.opcode.code, frame.mask, frame.payload.length⟩

/-- The payload as it goes over the stream. -/
def masked (frame : Frame) : Bytes := unmask frame.mask frame.payload

theorem length_masked (frame : Frame) : frame.masked.length = frame.payload.length := by
  unfold masked unmask
  cases frame.mask with
  | none => rfl
  | some key => exact key.length_apply frame.payload

theorem unmask_masked (frame : Frame) : unmask frame.mask frame.masked = frame.payload := by
  unfold masked unmask
  cases frame.mask with
  | none => rfl
  | some key => exact key.apply_apply frame.payload

/-- The key and the payload are read back from the body. -/
theorem readMask_body (frame : Frame) (rest : Bytes) :
    readMask frame.mask.isSome (frame.body ++ rest) = some (frame.mask, frame.masked ++ rest) := by
  unfold body masked unmask
  cases frame.mask with
  | none => rfl
  | some key => rfl

theorem extraBytes_lengthCode (length : Nat) : extraBytes (lengthCode length) = lengthBytes length := by
  unfold extraBytes lengthCode lengthBytes
  split
  · rw [if_neg (by omega), if_neg (by omega)]
  · split <;> rfl

theorem lengthCode_lt (length : Nat) : lengthCode length < 128 := by
  unfold lengthCode
  split
  · omega
  · split <;> omega

theorem code_lt (opcode : Opcode) : opcode.code < 16 := by
  cases opcode <;> decide

/-- The length is read back from its seven bits and the bytes that extend them. -/
theorem length_of_code {length : Nat} (h : length < 0x10000000000000000) :
    (if lengthBytes length = 0 then lengthCode length
      else (Bytes.ofNat (lengthBytes length) length).toNat) = length := by
  rw [Bytes.toNat_ofNat]
  unfold lengthBytes lengthCode
  split
  · rfl
  · split
    · exact Nat.mod_eq_of_lt (by omega)
    · exact Nat.mod_eq_of_lt (by omega)

theorem toNat_firstByte {frame : Frame} (h : frame.reserved < 8) :
    frame.firstByte.toNat =
      (if frame.final then 128 else 0) + frame.reserved * 16 + frame.opcode.code := by
  have code := code_lt frame.opcode
  unfold firstByte
  rw [UInt8.toNat_ofNat']
  exact Nat.mod_eq_of_lt (by split <;> omega)

theorem toNat_secondByte (frame : Frame) :
    frame.secondByte.toNat =
      (if frame.mask.isSome then 128 else 0) + lengthCode frame.payload.length := by
  have code := lengthCode_lt frame.payload.length
  unfold secondByte
  rw [UInt8.toNat_ofNat']
  exact Nat.mod_eq_of_lt (by split <;> omega)

/-- **A header is read back**, with everything behind it. -/
theorem readHeader_encode {frame : Frame} (hr : frame.reserved < 8) (hl : frame.payload.length < 0x10000000000000000)
    (rest : Bytes) : readHeader (frame.encode ++ rest) = some (frame.header, frame.masked ++ rest) := by
  have first := toNat_firstByte hr
  have second := toNat_secondByte frame
  have code := code_lt frame.opcode
  have short := lengthCode_lt frame.payload.length
  have low : frame.secondByte.toNat % 128 = lengthCode frame.payload.length := by
    rw [second]; split <;> omega
  have masked : decide (128 ≤ frame.secondByte) = frame.mask.isSome := by
    rw [Bool.eq_iff_iff, decide_eq_true_iff, UInt8.le_iff_toNat_le, second, UInt8.toNat_ofNat]
    cases frame.mask with
    | none => simp; omega
    | some key => simp
  have final : decide (128 ≤ frame.firstByte) = frame.final := by
    rw [Bool.eq_iff_iff, decide_eq_true_iff, UInt8.le_iff_toNat_le, first, UInt8.toNat_ofNat]
    cases frame.final with
    | false => simp; omega
    | true => simp; omega
  have extra := Bytes.length_ofNat (lengthBytes frame.payload.length) frame.payload.length
  have split : Bytes.ofNat (lengthBytes frame.payload.length) frame.payload.length ++ frame.body ++ rest
      = Bytes.ofNat (lengthBytes frame.payload.length) frame.payload.length ++ (frame.body ++ rest) :=
    List.append_assoc ..
  unfold encode readHeader
  simp only [List.cons_append, low, extraBytes_lengthCode, split]
  rw [if_neg (by simp [extra]), List.drop_left' extra, List.take_left' extra, masked, readMask_body, final,
    length_of_code hl, first]
  simp only [Option.map_some, header, Option.some.injEq, Prod.mk.injEq, and_true, Header.mk.injEq, true_and]
  constructor
  · split <;> omega
  · split <;> omega

/-- **A frame is read back** from its written form, whatever stands behind it. -/
theorem decode_encode {frame : Frame} {limit : Option Nat} (hr : frame.reserved < 8)
    (hl : frame.payload.length < 0x10000000000000000) (hlimit : limit.any (· < frame.payload.length) = false)
    (rest : Bytes) : decode limit (frame.encode ++ rest) = .frame frame rest := by
  have length := length_masked frame
  unfold decode
  rw [readHeader_encode hr hl]
  simp only [header, Opcode.ofCode?_code, List.length_append]
  rw [if_neg (Bool.not_eq_true _ ▸ hlimit), if_neg (by omega), List.take_left' length, List.drop_left' length,
    unmask_masked]

/-- **A frame beyond the limit is refused**, whatever stands behind it. -/
theorem decode_encode_tooLong {frame : Frame} {limit : Nat} (hr : frame.reserved < 8)
    (hl : frame.payload.length < 0x10000000000000000) (hlimit : limit < frame.payload.length) (rest : Bytes) :
    decode (some limit) (frame.encode ++ rest) = .tooLong frame.payload.length := by
  unfold decode
  rw [readHeader_encode hr hl]
  simp [header, Opcode.ofCode?_code, hlimit]

/-- A written frame has at least two bytes. -/
theorem two_le_length_encode (frame : Frame) : 2 ≤ frame.encode.length := by
  simp [encode]

/-! ## Verdicts are final -/

theorem readMask_append {masked : Bool} {bytes rest : Bytes} {mask : Option MaskKey}
    (h : readMask masked bytes = some (mask, rest)) (more : Bytes) :
    readMask masked (bytes ++ more) = some (mask, rest ++ more) := by
  unfold readMask at h ⊢
  cases masked with
  | false =>
    simp only [Bool.false_eq_true, if_false, Option.some.injEq, Prod.mk.injEq] at h ⊢
    exact ⟨h.1, by rw [h.2]⟩
  | true =>
    simp only [if_true] at h ⊢
    split at h
    · next a b c d tail =>
      simp only [Option.some.injEq, Prod.mk.injEq] at h
      obtain ⟨rfl, rfl⟩ := h
      rfl
    · cases h

/-- More bytes change nothing in a header that is complete. -/
theorem readHeader_append {bytes rest : Bytes} {header : Header} (h : readHeader bytes = some (header, rest))
    (more : Bytes) : readHeader (bytes ++ more) = some (header, rest ++ more) := by
  unfold readHeader at h
  split at h
  · next first second tail =>
    simp only at h
    split at h
    · cases h
    · next enough =>
      obtain ⟨⟨mask, behind⟩, hmask, heq⟩ := Option.map_eq_some_iff.mp h
      simp only [Prod.mk.injEq] at heq
      obtain ⟨rfl, rfl⟩ := heq
      have enough : extraBytes (second.toNat % 128) ≤ tail.length := by omega
      unfold readHeader
      simp only [List.cons_append, List.length_append]
      rw [if_neg (by omega), List.take_append_of_le_length enough, List.drop_append_of_le_length enough,
        readMask_append hmask]
      rfl
  · cases h

/-- The same verdict, with more bytes behind what it was given on. -/
def Decoded.followed (more : Bytes) : Decoded → Decoded
  | .frame whole rest => .frame whole (rest ++ more)
  | decoded => decoded

/-- **A verdict is final**: more bytes change nothing in a frame that has been read, nor in one that has been refused. -/
theorem decode_append {limit : Option Nat} {bytes : Bytes} (h : decode limit bytes ≠ .unfinished) (more : Bytes) :
    decode limit (bytes ++ more) = (decode limit bytes).followed more := by
  unfold decode at h ⊢
  cases hheader : readHeader bytes with
  | none =>
    rw [hheader] at h
    exact absurd rfl h
  | some pair =>
    obtain ⟨header, behind⟩ := pair
    rw [hheader] at h
    rw [readHeader_append hheader]
    simp only at h ⊢
    cases hopcode : Opcode.ofCode? header.opcode with
    | none => rfl
    | some opcode =>
      rw [hopcode] at h
      simp only at h ⊢
      -- the length is checked before the payload is there, and more bytes do not change it
      by_cases hbeyond : limit.any (· < header.length) = true
      · rw [if_pos hbeyond, if_pos hbeyond]
        rfl
      · by_cases hshort : behind.length < header.length
        · rw [if_neg hbeyond, if_pos hshort] at h
          exact absurd rfl h
        · have henough : header.length ≤ behind.length := by omega
          have hlonger : ¬ (behind ++ more).length < header.length := by
            rw [List.length_append]
            omega
          rw [if_neg hbeyond, if_neg hlonger, if_neg hbeyond, if_neg hshort,
            List.take_append_of_le_length henough, List.drop_append_of_le_length henough]
          rfl

/-! ## Parts of a frame -/

/-- **A part of a frame is no frame**: a proper part from the front of a written frame is unfinished. -/
theorem decode_eq_unfinished {frame : Frame} {limit : Option Nat} (hr : frame.reserved < 8)
    (hl : frame.payload.length < 0x10000000000000000) (hlimit : limit.any (· < frame.payload.length) = false)
    {front back : Bytes} (hcut : front ++ back = frame.encode) (hback : back ≠ []) :
    decode limit front = .unfinished := by
  refine Decidable.byContradiction fun hread => ?_
  -- the verdict on the front would also be the one on the whole, with `back` left over
  have whole : (decode limit front).followed back = .frame frame [] := by
    rw [← decode_append hread, hcut, ← List.append_nil frame.encode]
    exact decode_encode hr hl hlimit []
  cases hfront : decode limit front with
  | unfinished => exact hread hfront
  | frame other rest =>
    rw [hfront] at whole
    injection whole with _ hrest
    exact absurd (List.append_eq_nil_iff.mp hrest).2 hback
  | badOpcode code =>
    rw [hfront] at whole
    cases whole
  | tooLong length =>
    rw [hfront] at whole
    cases whole

end TextSocket.Frame
