import TextSocket.Inbound
import TextSocket.Proofs.Http.Head

/-!
# `Proofs.Inbound.Head` — a head is read up to its first blank line

Bytes are read one by one, and after each of them it is seen whether they end in a blank line. So **what is taken from
the stream is the head and nothing behind it** (`readHead_of_fits`), whatever stands there, and the rest of the stream
is what the connection begins with (`read_of_parse`, `read_ok`).

## Contents

* `endsInBlankLine_iff`, `readHead_of_fits`, `readHead_of_long`, `readHead_complete` — the head among the bytes;
* `read_of_parse`, `read_ok` — the request.
-/

namespace TextSocket.Inbound

open Http.Head (blankLine EndsAtBlankLine)
open Net (Attempt Wire)

/-! ## The head among the bytes -/

theorem endsInBlankLine_iff {taken : Bytes} : endsInBlankLine taken = true ↔ blankLine <:+ taken.reverse := by
  constructor
  · intro h
    unfold endsInBlankLine at h
    split at h
    · next front => exact ⟨front.reverse, by simp [blankLine]⟩
    · cases h
  · rintro ⟨front, hfront⟩
    have htaken : taken = 10 :: 13 :: 10 :: 13 :: front.reverse := by
      rw [← List.reverse_reverse taken, ← hfront]
      simp [blankLine]
    rw [htaken]
    rfl

/-- Within a head no blank line has been read. -/
theorem not_endsInBlankLine {taken : Bytes} {b : UInt8} {more : Bytes}
    (h : EndsAtBlankLine (taken.reverse ++ b :: more)) : endsInBlankLine taken = false := by
  rw [Bool.eq_false_iff]
  intro hends
  obtain ⟨front, hfront⟩ := endsInBlankLine_iff.1 hends
  have hback := h.first front (b :: more) (by rw [hfront])
  cases hback

variable {taken more head : Bytes}

theorem readHeadFrom_of_fits (h : EndsAtBlankLine (taken.reverse ++ more))
    (hfits : taken.length + more.length ≤ headLimit) (rest : Bytes) :
    readHeadFrom taken taken.length (more ++ rest) = .complete (taken.reverse ++ more) rest := by
  -- the induction is on what is missing; the bytes taken so far, in reverse, stay in front of it
  induction more generalizing taken with
  | nil =>
    rw [List.append_nil] at h ⊢
    unfold readHeadFrom
    exact if_pos (endsInBlankLine_iff.2 h.ends)
  | cons b more ih =>
    have hnext : (b :: taken).reverse ++ more = taken.reverse ++ b :: more := by simp
    have hroom : ¬ headLimit ≤ taken.length := by
      rw [List.length_cons] at hfits
      omega
    unfold readHeadFrom
    rw [not_endsInBlankLine h, if_neg Bool.false_ne_true, if_neg hroom, ← hnext]
    exact ih (hnext ▸ h) (by simp only [List.length_cons] at hfits ⊢; omega)

/-- **A head within the limit is read up to its end.** -/
theorem readHead_of_fits (h : EndsAtBlankLine head) (hfits : head.length ≤ headLimit) (rest : Bytes) :
    readHead (head ++ rest) = .complete head rest := by
  have hstart : EndsAtBlankLine (([] : Bytes).reverse ++ head) := h
  exact readHeadFrom_of_fits hstart (by simpa using hfits) rest

theorem readHeadFrom_of_long (h : EndsAtBlankLine (taken.reverse ++ more)) (htaken : taken.length ≤ headLimit)
    (hlong : headLimit < taken.length + more.length) (rest : Bytes) :
    ∃ left, readHeadFrom taken taken.length (more ++ rest) = .tooLarge left := by
  induction more generalizing taken with
  | nil => exact absurd htaken (by simpa using hlong)
  | cons b more ih =>
    have hnext : (b :: taken).reverse ++ more = taken.reverse ++ b :: more := by simp
    unfold readHeadFrom
    rw [not_endsInBlankLine h, if_neg Bool.false_ne_true]
    split
    · exact ⟨_, rfl⟩
    · exact ih (hnext ▸ h) (by rw [List.length_cons]; omega) (by simp only [List.length_cons] at hlong ⊢; omega)

/-- A head beyond the limit is not read. -/
theorem readHead_of_long (h : EndsAtBlankLine head) (hlong : headLimit < head.length) (rest : Bytes) :
    ∃ left, readHead (head ++ rest) = .tooLarge left := by
  have hstart : EndsAtBlankLine (([] : Bytes).reverse ++ head) := h
  exact readHeadFrom_of_long hstart (Nat.zero_le _) (by simpa using hlong) rest

/-- Reading stops at the first blank line, if there has been none in the bytes read before. -/
theorem readHeadFrom_complete {size : Nat} {incoming rest : Bytes}
    (hfirst : ∀ front back, taken.reverse = front ++ blankLine ++ back → back = [])
    (h : readHeadFrom taken size incoming = .complete head rest) :
    taken.reverse ++ incoming = head ++ rest ∧ EndsAtBlankLine head := by
  fun_induction readHeadFrom taken size incoming with
  | case1 taken size incoming hends =>
    cases h
    exact ⟨rfl, endsInBlankLine_iff.1 hends, hfirst⟩
  | case2 => cases h
  | case3 => cases h
  | case4 taken size hends hroom b incoming ih =>
    have hincoming : taken.reverse ++ b :: incoming = (b :: taken).reverse ++ incoming := by simp
    rw [hincoming]
    refine ih (fun front back hback => ?_) h
    -- a blank line that is not at the end would have ended the bytes before
    rcases List.eq_nil_or_concat back with rfl | ⟨back, c, rfl⟩
    · rfl
    · rw [List.reverse_cons, List.concat_eq_append, ← List.append_assoc] at hback
      have hbefore := (List.append_inj' hback rfl).1
      have hnil := hfirst front back hbefore
      rw [hnil, List.append_nil] at hbefore
      exact absurd (endsInBlankLine_iff.2 ⟨front, hbefore.symm⟩) hends

/-- **What is read is a head up to its first blank line**, and the rest is left. -/
theorem readHead_complete {incoming rest : Bytes} (h : readHead incoming = .complete head rest) :
    incoming = head ++ rest ∧ EndsAtBlankLine head := by
  have hfirst : ∀ front back, ([] : Bytes).reverse = front ++ blankLine ++ back → back = [] := by
    intro front back hback
    cases front <;> cases hback
  exact readHeadFrom_complete hfirst h

/-! ## The request -/

section read

variable {wire : Wire} {rest : Bytes} {peer : Net.Endpoint}

/-- **A request is read from its head**, and the stream keeps what is behind it. -/
theorem read_of_parse (hhead : EndsAtBlankLine head) (hfits : head.length ≤ headLimit)
    (hincoming : wire.incoming = head ++ rest) {request : Http.Request} {left : Bytes}
    (hparse : Http.Request.parse head = .ok (request, left)) :
    read peer wire = .ok ⟨request, peer, wire.take rest⟩ := by
  rw [read, hincoming, readHead_of_fits hhead hfits]
  simp only [hparse]

/-- **What has been read is a head and nothing else.** -/
theorem read_ok (hhead : EndsAtBlankLine head) (hincoming : wire.incoming = head ++ rest) {inbound : Inbound}
    (hread : read peer wire = .ok inbound) : inbound.wire = wire.take rest ∧
      ∃ left, Http.Request.parse head = .ok (inbound.request, left) := by
  rw [read, hincoming] at hread
  -- a head beyond the limit would have been a failure
  rcases Nat.lt_or_ge headLimit head.length with hlong | hfits
  · obtain ⟨left, hleft⟩ := readHead_of_long hhead hlong rest
    rw [hleft] at hread
    cases hread
  · rw [readHead_of_fits hhead hfits] at hread
    simp only at hread
    split at hread
    · next request left hparse =>
      cases hread
      exact ⟨rfl, left, hparse⟩
    · cases hread

end read

end TextSocket.Inbound
