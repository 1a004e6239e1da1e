import TextSocket.Http.Response
import TextSocket.Proofs.Http.Head

/-!
# `Proofs.Http.Response` — responses are told apart

A refusal states the length of its body, so a reader knows where the next response begins, whatever the body holds:
**refusals that follow each other are read as what they are** (`readAll?_flatMap`). The response that ends the
handshake has no body; it is over with its first blank line (`parse_switching`, `endsAtBlankLine_switching`).

## Contents

* `digits`, `decimal?_digits`, `readCode_digits` — numbers;
* `refusalLines`, `parse_refusal`, `bodyLength?_refusal` — the head of a refusal;
* `readBody?_refusal`, `readAll?_flatMap` — refusals with their bodies;
* `switchingLines`, `parse_switching`, `endsAtBlankLine_switching` — the end of the handshake.
-/

namespace TextSocket.Http

open Ascii (IsVisible)
open Head (IsLine EndsAtBlankLine trimmed lineEnd)

/-! ## Numbers -/

/-- A number in decimal digits. -/
def digits (n : Nat) : Bytes := (Nat.toDigits 10 n).map fun c => UInt8.ofNat c.toNat

theorem toNat_of_isDigit {c : Char} (h : c.isDigit = true) : 48 ≤ c.toNat ∧ c.toNat ≤ 57 := by
  simpa [Char.isDigit, UInt32.le_iff_toNat_le] using h

theorem isDigit_toDigits {n : Nat} {c : Char} (h : c ∈ Nat.toDigits 10 n) : c.isDigit = true :=
  Nat.isDigit_of_mem_toDigits (by decide) (by decide) h

theorem ofText_toString (n : Nat) : Bytes.ofText (toString n) = digits n := by
  rw [Nat.toString_eq_ofList_toDigits]
  apply Bytes.ofText_ascii
  intro c hc
  have := toNat_of_isDigit (isDigit_toDigits hc)
  omega

theorem toNat_byte {c : Char} (h : c.isDigit = true) : (UInt8.ofNat c.toNat).toNat = c.toNat := by
  have := toNat_of_isDigit h
  rw [UInt8.toNat_ofNat']
  omega

theorem isDigit_byte {c : Char} (h : c.isDigit = true) : Ascii.isDigit (UInt8.ofNat c.toNat) = true := by
  have := toNat_of_isDigit h
  simp only [Ascii.isDigit, Bool.and_eq_true, decide_eq_true_eq, UInt8.le_iff_toNat_le, toNat_byte h]
  exact this

theorem visible_digits (n : Nat) : ∀ b ∈ digits n, IsVisible b := by
  intro b hb
  obtain ⟨c, hc, rfl⟩ := List.mem_map.1 hb
  have := toNat_of_isDigit (isDigit_toDigits hc)
  rw [Ascii.IsVisible, toNat_byte (isDigit_toDigits hc)]
  omega

/-- The number that digits continue. -/
theorem foldl_digits {cs : List Char} (h : ∀ c ∈ cs, c.isDigit = true) (n : Nat) :
    (cs.map fun c => UInt8.ofNat c.toNat).foldl (fun n b => n * 10 + (b.toNat - 48)) n = Nat.ofDigitChars 10 cs n := by
  induction cs generalizing n with
  | nil => rfl
  | cons c cs ih =>
    rw [List.map_cons, List.foldl_cons, toNat_byte (h c List.mem_cons_self),
      ih (fun d hd => h d (List.mem_cons_of_mem c hd)), Nat.mul_comm]
    rfl

/-- **A number is read back from its digits.** -/
theorem decimal?_digits (n : Nat) : Response.decimal? (digits n) = some n := by
  have some : digits n ≠ [] := fun h => Nat.toDigits_ne_nil (List.map_eq_nil_iff.1 h)
  have all : (digits n).all Ascii.isDigit = true := by
    rw [List.all_eq_true]
    intro b hb
    obtain ⟨c, hc, rfl⟩ := List.mem_map.1 hb
    exact isDigit_byte (isDigit_toDigits hc)
  have value : (digits n).foldl (fun n b => n * 10 + (b.toNat - 48)) 0 = n :=
    (foldl_digits (fun _ => isDigit_toDigits) 0).trans Nat.ofDigitChars_ten_toDigits
  simp [Response.decimal?, some, all, value]

theorem readCode_map {cs : List Char} (h : ∀ c ∈ cs, c.isDigit = true) (n : Nat) (rest : Bytes) :
    Head.readCode cs.length n ((cs.map fun c => UInt8.ofNat c.toNat) ++ rest)
      = .found (Nat.ofDigitChars 10 cs n) rest := by
  induction cs generalizing n with
  | nil => rfl
  | cons c cs ih =>
    have hc := h c List.mem_cons_self
    rw [List.length_cons, List.map_cons, List.cons_append, Head.readCode, if_pos (isDigit_byte hc),
      ih (fun d hd => h d (List.mem_cons_of_mem c hd)), toNat_byte hc, Nat.mul_comm]
    rfl

theorem length_toDigits {n : Nat} (hleast : 100 ≤ n) (hgreatest : n ≤ 999) : (Nat.toDigits 10 n).length = 3 := by
  rw [Nat.toDigits_of_base_le (by decide) (by omega), Nat.toDigits_of_base_le (by decide) (by omega),
    Nat.toDigits_of_lt_base (by omega)]
  rfl

/-- The code of a status is read back. -/
theorem readCode_digits (status : Status) (rest : Bytes) :
    Head.readCode 3 0 (digits status.code ++ rest) = .found status.code rest := by
  have hread := readCode_map (fun c (hc : c ∈ Nat.toDigits 10 status.code) => isDigit_toDigits hc) 0 rest
  rw [length_toDigits status.range.1 status.range.2, Nat.ofDigitChars_ten_toDigits] at hread
  exact hread

/-! ## The head of a refusal -/

/-- The header lines of a refusal. -/
def refusalLines (body : Bytes) : List (Bytes × Bytes) :=
  [line "Content-Type" "text/plain; charset=utf-8", line "X-Content-Type-Options" "nosniff",
    line "Content-Length" (toString body.length), line "Connection" "close"]

theorem refusal_eq (status : Status) (body : Bytes) :
    refusal status body = Head.write (statusLine status) (refusalLines body) ++ body := rfl

theorem visible_toString (n : Nat) : ∀ b ∈ (line "Content-Length" (toString n)).2, IsVisible b := by
  rw [line, ofText_toString]
  exact visible_digits n

theorem isLine_contentLength (n : Nat) : IsLine (line "Content-Length" (toString n)) where
  named := by
    show Bytes.ofText "Content-Length" ≠ []
    decide
  token := by
    have token : (Bytes.ofText "Content-Length").all Ascii.isToken = true := by decide
    exact List.all_eq_true.1 token
  value b hb := Head.isFieldByte_of_visible (visible_toString n b hb)

theorem isLine_refusal (body : Bytes) : ∀ l ∈ refusalLines body, IsLine l := by
  intro l hl
  simp only [refusalLines, List.mem_cons, List.not_mem_nil, or_false] at hl
  rcases hl with rfl | rfl | rfl | rfl
  · decide
  · decide
  · exact isLine_contentLength body.length
  · decide

theorem trimmed_refusal (body : Bytes) : (refusalLines body).map trimmed = refusalLines body := by
  have type : trimmed (line "Content-Type" "text/plain; charset=utf-8")
      = line "Content-Type" "text/plain; charset=utf-8" := by decide
  have options : trimmed (line "X-Content-Type-Options" "nosniff") = line "X-Content-Type-Options" "nosniff" := by
    decide
  have connection : trimmed (line "Connection" "close") = line "Connection" "close" := by decide
  have length : trimmed (line "Content-Length" (toString body.length)) = line "Content-Length" (toString body.length) :=
    Head.trimmed_of_visible (visible_toString body.length)
  simp only [refusalLines, List.map_cons, List.map_nil, type, options, connection, length]

/-- The reason phrase of a status may stand in a status line. -/
theorem isReasonByte_reason (status : Status) :
    ∀ b ∈ Bytes.ofText (status.reason?.getD ""), Head.isReasonByte b = true := by
  have registered : ∀ r ∈ reasons, (Bytes.ofText r.2).all Head.isReasonByte = true := by decide +kernel
  intro b hb
  cases hreason : status.reason? with
  | none => rw [hreason] at hb; cases hb
  | some phrase =>
    obtain ⟨front, back, hreasons, -⟩ := List.lookup_eq_some_iff.1 hreason
    have hmem : (status.code, phrase) ∈ reasons := hreasons ▸ List.mem_append_right front List.mem_cons_self
    rw [hreason] at hb
    exact List.all_eq_true.1 (registered _ hmem) b hb

theorem write_eq (status : Status) (lines : List (Bytes × Bytes)) (rest : Bytes) :
    Head.write (statusLine status) lines ++ rest
      = Head.protocolName ++ 49 :: 32 :: (digits status.code ++ (32 :: Bytes.ofText (status.reason?.getD "") ++ lineEnd
        ++ (lines.flatMap Head.writeField ++ lineEnd ++ rest))) := by
  have start : Bytes.ofText "HTTP/1.1 " = Head.protocolName ++ [49, 32] := by decide
  have space : Bytes.ofText " " = [32] := by decide
  simp only [Head.write, statusLine, Bytes.ofText_append, ofText_toString, start, space, List.append_assoc,
    List.cons_append, List.nil_append]

/-- **The head of a response is read back**, up to the blanks around the values. -/
theorem parse_write (status : Status) {lines : List (Bytes × Bytes)} (hlines : ∀ l ∈ lines, IsLine l)
    (hfew : lines.length ≤ Response.fieldLimit) (rest : Bytes) :
    Response.parse (Head.write (statusLine status) lines ++ rest) = .found ⟨1, status.code, lines.map trimmed⟩ rest := by
  -- the name of the protocol begins with a letter, so no blank line is skipped
  have first : ∃ more, Head.protocolName = 72 :: more := ⟨_, rfl⟩
  obtain ⟨more, hmore⟩ := first
  have start (rest : Bytes) : Head.skipBlankLines (Head.protocolName ++ rest) = .found () (Head.protocolName ++ rest) := by
    rw [hmore]
    exact Head.skipBlankLines_begins ⟨72, _, rfl, by decide, by decide⟩
  rw [write_eq, Response.parse, start]
  simp only [Scan.andThen, Head.readVersion_one, Head.readSpace_cons, readCode_digits,
    Head.readReason_append (isReasonByte_reason status), Head.readFields_writeFields hlines hfew]
  rfl

/-- **The head of a refusal is read back**, and its body is left. -/
theorem parse_refusal (status : Status) (body rest : Bytes) :
    Response.parse (refusal status body ++ rest) = .found ⟨1, status.code, refusalLines body⟩ (body ++ rest) := by
  have few : (refusalLines body).length ≤ Response.fieldLimit := by
    show 4 ≤ 124
    decide
  rw [refusal_eq, List.append_assoc, parse_write status (isLine_refusal body) few, trimmed_refusal]

/-- The head of a refusal states the length of the body. -/
theorem bodyLength?_refusal (code : Nat) (body : Bytes) :
    (Response.mk 1 code (refusalLines body)).bodyLength? = some body.length := by
  -- the lines in front of it have other names
  have found : (refusalLines body).find? (fun l => Ascii.equalFold l.1 Header.Name.contentLength.bytes)
      = some (line "Content-Length" (toString body.length)) := by
    have type : Ascii.equalFold (Bytes.ofText "Content-Type") Header.Name.contentLength.bytes = false := by decide
    have options : Ascii.equalFold (Bytes.ofText "X-Content-Type-Options") Header.Name.contentLength.bytes = false := by
      decide
    have length : Ascii.equalFold (Bytes.ofText "Content-Length") Header.Name.contentLength.bytes = true := by decide
    simp only [refusalLines, line, List.find?_cons, type, options, length]
  rw [Response.bodyLength?, found, Option.bind_some, line, ofText_toString]
  exact decimal?_digits body.length

/-! ## Refusals with their bodies -/

/-- **A refusal is read back**, and what follows it is left. -/
theorem readBody?_refusal (status : Status) (body rest : Bytes) :
    Response.readBody? (refusal status body ++ rest) = some ((status, body), rest) := by
  have known : Status.ofCode? status.code = some status := dif_pos status.range
  have enough : body.length ≤ (body ++ rest).length := by simp
  simp only [Response.readBody?, parse_refusal, known, bodyLength?_refusal, if_pos enough, List.take_left,
    List.drop_left]

theorem readMany?_flatMap (responses : List (Status × Bytes)) {fuel : Nat} (hfuel : responses.length ≤ fuel) :
    Response.readMany? fuel (responses.flatMap fun r => refusal r.1 r.2) = some responses := by
  induction responses generalizing fuel with
  | nil => cases fuel <;> rfl
  | cons r responses ih =>
    obtain ⟨fuel, rfl⟩ : ∃ n, fuel = n + 1 := ⟨fuel - 1, by simp at hfuel; omega⟩
    have hread := readBody?_refusal r.1 r.2 (responses.flatMap fun r => refusal r.1 r.2)
    -- a refusal is not empty, so the reader does not stop in front of it
    have first : ∃ b more, refusal r.1 r.2 ++ responses.flatMap (fun r => refusal r.1 r.2) = b :: more :=
      ⟨_, _, rfl⟩
    obtain ⟨b, more, hmore⟩ := first
    rw [List.flatMap_cons, hmore, Response.readMany?, ← hmore, hread]
    simp only [ih (by simpa using hfuel), Option.map_some]

/-- **Refusals that follow each other are read as what they are.** -/
theorem readAll?_flatMap (responses : List (Status × Bytes)) :
    Response.readAll? (responses.flatMap fun r => refusal r.1 r.2) = some responses := by
  apply readMany?_flatMap
  induction responses with
  | nil => exact Nat.le_refl 0
  | cons r responses ih =>
    have : 0 < (refusal r.1 r.2).length := Nat.zero_lt_succ _
    rw [List.flatMap_cons, List.length_append, List.length_cons]
    omega

/-! ## The end of the handshake -/

/-- The header lines of the response that ends the handshake. -/
def switchingLines (accept : Bytes) : List (Bytes × Bytes) :=
  [line "Connection" "Upgrade", line "Upgrade" "websocket", (Bytes.ofText "Sec-WebSocket-Accept", accept)]

section switching

variable {accept : Bytes} (haccept : ∀ b ∈ accept, IsVisible b)

include haccept

theorem isLine_switching : ∀ l ∈ switchingLines accept, IsLine l := by
  intro l hl
  simp only [switchingLines, List.mem_cons, List.not_mem_nil, or_false] at hl
  rcases hl with rfl | rfl | rfl
  · decide
  · decide
  · constructor
    case named => show Bytes.ofText "Sec-WebSocket-Accept" ≠ []; decide
    case token => exact List.all_eq_true.1 (show (Bytes.ofText "Sec-WebSocket-Accept").all Ascii.isToken = true by decide)
    case value => exact fun b hb => Head.isFieldByte_of_visible (haccept b hb)

theorem trimmed_switching : (switchingLines accept).map trimmed = switchingLines accept := by
  have connection : trimmed (line "Connection" "Upgrade") = line "Connection" "Upgrade" := by decide
  have upgrade : trimmed (line "Upgrade" "websocket") = line "Upgrade" "websocket" := by decide
  simp only [switchingLines, List.map_cons, List.map_nil, connection, upgrade, Head.trimmed_of_visible haccept]

/-- **The response that ends the handshake is read back**, and leaves what follows. -/
theorem parse_switching (rest : Bytes) :
    Response.parse (switching accept ++ rest) = .found ⟨1, 101, switchingLines accept⟩ rest := by
  have few : (switchingLines accept).length ≤ Response.fieldLimit := by
    show 3 ≤ 124
    decide
  have hread := parse_write .switchingProtocols (isLine_switching haccept) few rest
  rw [trimmed_switching haccept] at hread
  exact hread

/-- **It is over with its first blank line.** -/
theorem endsAtBlankLine_switching : EndsAtBlankLine (switching accept) :=
  Head.endsAtBlankLine_write (by decide) (isLine_switching haccept)

end switching

end TextSocket.Http
