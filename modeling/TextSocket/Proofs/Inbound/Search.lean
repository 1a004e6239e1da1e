import TextSocket.Proofs.Inbound.Head
import TextSocket.Proofs.Net.Wire

/-!
# `Proofs.Inbound.Search` — where the search for a head stops

Bytes are taken from the stream one by one, and two things end this: a blank line at the end of what has been taken, and
the greatest size of a head. The blank line is looked for first, so a head may be exactly as large as the limit. **Every
stream comes to exactly one of three ends** (`Stops`): the shortest part of it that ends in a blank line has been taken,
or as many bytes as a head may have, or all there were. How the stream is cut into pieces when it arrives does not matter
(`readPieces_eq`), and what is reported follows from the end that the search has come to (`Reports`).

## Contents

* `readPieces`, `readHeadFrom_append`, `readPieces_eq` — a head that arrives in pieces;
* `IsHead`, `Stops`, `stops_readHeadFrom`, `Stops.unique` — the three ends;
* `arrived`, `Reports` — what is reported of them;
* `readPieces_stops` — the main result.
-/

namespace TextSocket.Inbound

open Http.Head (blankLine)
open Net (Wire)

/-! ## Pieces -/

/-- What a search comes to when further bytes stand behind those it has not taken. -/
def Head.before (more : Bytes) : Head → Head
  | complete head rest => complete head (rest ++ more)
  | tooLarge rest => tooLarge (rest ++ more)
  | starved => starved

/-- Reads the head of a request while the stream arrives piece by piece. A search that is starved keeps what it has
    taken, in reverse, and goes on with the next piece. -/
def readPieces (taken : Bytes) : List Bytes → Head
  | [] => readHeadFrom taken taken.length []
  | piece :: pieces =>
    match readHeadFrom taken taken.length piece with
    | .starved => readPieces (piece.reverse ++ taken) pieces
    | outcome => outcome.before pieces.flatten

/-- **A search that is starved goes on with what arrives as if it had been there before**, and one that is over leaves it
    on the stream. -/
theorem readHeadFrom_append (taken : Bytes) (size : Nat) (piece more : Bytes) :
    readHeadFrom taken size (piece ++ more)
      = match readHeadFrom taken size piece with
        | .starved => readHeadFrom (piece.reverse ++ taken) (size + piece.length) more
        | outcome => outcome.before more := by
  induction piece generalizing taken size with
  | nil =>
    unfold readHeadFrom
    by_cases hends : endsInBlankLine taken = true
    · simp [hends, Head.before]
    · by_cases hfull : headLimit ≤ size
      · simp [hends, hfull, Head.before]
      · simp [hends, hfull]
  | cons b piece ih =>
    rw [List.cons_append]
    conv => lhs; unfold readHeadFrom
    conv => rhs; arg 2; unfold readHeadFrom
    by_cases hends : endsInBlankLine taken = true
    · simp [hends, Head.before]
    · by_cases hfull : headLimit ≤ size
      · simp [hends, hfull, Head.before]
      · have hsize : size + 1 + piece.length = size + (piece.length + 1) := by omega
        simp [hends, hfull, ih, hsize]

/-- **Pieces are read as the stream that they make up.** -/
theorem readPieces_eq (taken : Bytes) (pieces : List Bytes) :
    readPieces taken pieces = readHeadFrom taken taken.length pieces.flatten := by
  induction pieces generalizing taken with
  | nil => rfl
  | cons piece pieces ih =>
    have hlength : (piece.reverse ++ taken).length = taken.length + piece.length := by
      simp only [List.length_append, List.length_reverse]
      omega
    rw [readPieces, List.flatten_cons, readHeadFrom_append, ih, hlength]

/-! ## The three ends -/

/-- **A head within the limit**: the stream begins with it, and it ends in a blank line. -/
structure IsHead (stream head : Bytes) : Prop where
  /-- The stream begins with it. -/
  begins : head <+: stream
  /-- It is not larger than a head may be. -/
  fits : head.length ≤ 8192
  /-- It ends in a blank line. -/
  ends : blankLine <:+ head

/-- **Where the search for a head stops**, and what it leaves on the stream. -/
inductive Stops (stream : Bytes) : Head → Prop where
  /-- The shortest head has been taken. -/
  | found {head rest : Bytes} (hsplit : stream = head ++ rest) (hhead : IsHead stream head)
      (hshortest : ∀ other, IsHead stream other → head.length ≤ other.length) : Stops stream (.complete head rest)
  /-- There is none, and as many bytes have been taken as a head may have. -/
  | full {taken rest : Bytes} (hsplit : stream = taken ++ rest) (hfull : taken.length = 8192)
      (hnone : ∀ head, ¬ IsHead stream head) : Stops stream (.tooLarge rest)
  /-- There is none, and the stream has been taken as far as it goes. -/
  | starved (hshort : stream.length < 8192) (hnone : ∀ head, ¬ IsHead stream head) : Stops stream .starved

/-- The bytes that a search leaves on the stream. -/
def Head.left : Head → Bytes
  | complete _ rest => rest
  | tooLarge rest => rest
  | starved => []

/-- If what has been taken does not end in a blank line, the next head is longer. -/
theorem length_lt_of_isHead {taken incoming head : Bytes} (hends : ¬ endsInBlankLine taken = true)
    (hleast : taken.length ≤ head.length) (h : IsHead (taken.reverse ++ incoming) head) : taken.length < head.length := by
  apply Nat.lt_of_le_of_ne hleast
  intro hlength
  have htaken : taken.reverse <+: head := by
    apply List.prefix_of_prefix_length_le (List.prefix_append _ _) h.begins
    simp [hlength]
  have hhead : taken.reverse = head := htaken.eq_of_length (by simp [hlength])
  apply hends
  rw [endsInBlankLine_iff, hhead]
  exact h.ends

/-- **The search stops at one of the three ends.** The invariant is that no head is shorter than what has been taken. -/
theorem stops_readHeadFrom {taken incoming : Bytes} {size : Nat} (hsize : size = taken.length)
    (hlimit : taken.length ≤ 8192)
    (hleast : ∀ head, IsHead (taken.reverse ++ incoming) head → taken.length ≤ head.length) :
    Stops (taken.reverse ++ incoming) (readHeadFrom taken size incoming) := by
  have hbound : headLimit = 8192 := rfl
  fun_induction readHeadFrom taken size incoming with
  | case1 taken size incoming hends =>
    apply Stops.found rfl
    · exact ⟨List.prefix_append _ _, by simpa using hlimit, endsInBlankLine_iff.1 hends⟩
    · intro other hother
      simpa using hleast other hother
  | case2 taken size incoming hends hfull =>
    apply Stops.full rfl
    · simp only [List.length_reverse]
      omega
    · intro head hhead
      have hlonger := length_lt_of_isHead hends (hleast head hhead) hhead
      have hfits := hhead.fits
      omega
  | case3 taken size hends hroom =>
    apply Stops.starved
    · simp only [List.append_nil, List.length_reverse]
      omega
    · intro head hhead
      have hlonger := length_lt_of_isHead hends (hleast head hhead) hhead
      have hbegins := hhead.begins.length_le
      simp only [List.append_nil, List.length_reverse] at hbegins
      omega
  | case4 taken size hends hroom b incoming ih =>
    have hnext : taken.reverse ++ b :: incoming = (b :: taken).reverse ++ incoming := by simp
    rw [hnext]
    apply ih
    · simp [hsize]
    · simp only [List.length_cons]
      omega
    · intro head hhead
      rw [← hnext] at hhead
      exact length_lt_of_isHead hends (hleast head hhead) hhead

/-- **The three ends exclude each other.** -/
theorem Stops.unique {stream : Bytes} {outcome other : Head} (h : Stops stream outcome) (h' : Stops stream other) :
    outcome = other := by
  cases h with
  | found hsplit hhead hshortest =>
    cases h' with
    | found hsplit' hhead' hshortest' =>
      have hlength := Nat.le_antisymm (hshortest _ hhead') (hshortest' _ hhead)
      obtain ⟨rfl, rfl⟩ := List.append_inj (hsplit.symm.trans hsplit') hlength
      rfl
    | full _ _ hnone => exact absurd hhead (hnone _)
    | starved _ hnone => exact absurd hhead (hnone _)
  | full hsplit hfull hnone =>
    cases h' with
    | found _ hhead _ => exact absurd hhead (hnone _)
    | full hsplit' hfull' _ =>
      obtain ⟨-, rfl⟩ := List.append_inj (hsplit.symm.trans hsplit') (hfull.trans hfull'.symm)
      rfl
    | starved hshort _ =>
      rw [hsplit, List.length_append] at hshort
      omega
  | starved hshort hnone =>
    cases h' with
    | found _ hhead _ => exact absurd hhead (hnone _)
    | full hsplit' hfull' _ =>
      rw [hsplit', List.length_append] at hshort
      omega
    | starved => rfl

/-- No more bytes are taken than a head may have. -/
theorem Stops.taken_le {stream : Bytes} {outcome : Head} (h : Stops stream outcome) :
    ∃ taken, stream = taken ++ outcome.left ∧ taken.length ≤ 8192 := by
  cases h with
  | found hsplit hhead _ => exact ⟨_, hsplit, hhead.fits⟩
  | full hsplit hfull _ => exact ⟨_, hsplit, Nat.le_of_eq hfull⟩
  | starved hshort _ => exact ⟨stream, (List.append_nil stream).symm, Nat.le_of_lt hshort⟩

/-! ## Reports -/

/-- A stream on which pieces have arrived one after another. It ends behind them, or nothing more arrives in time. -/
def arrived (pieces : List Bytes) (ended : Bool) : Wire :=
  if ended then (pieces.foldl Wire.deliver .fresh).finish else pieces.foldl Wire.deliver .fresh

/-- **What is reported of a search on a stream.** -/
inductive Reports (peer : Net.Endpoint) (wire : Wire) : Head → Except Error Inbound → Prop where
  /-- A head that is that of a request. The stream keeps what was left on it. -/
  | request {head rest lost : Bytes} {request : Http.Request} (hparse : Http.Request.parse head = .ok (request, lost)) :
      Reports peer wire (.complete head rest) (.ok ⟨request, peer, wire.take rest⟩)
  /-- A head that is not. -/
  | malformed {head rest : Bytes} {cause : Http.RequestFault} (hparse : Http.Request.parse head = .error cause) :
      Reports peer wire (.complete head rest) (.error (.protocol cause.message))
  /-- No head within the limit. -/
  | tooLarge {rest : Bytes} : Reports peer wire (.tooLarge rest) (.error (.protocol "HTTP request head too large"))
  /-- A stream that ends too early. -/
  | closedEarly (hended : wire.ending = .ended) :
      Reports peer wire .starved (.error (.protocol "Connection closed before request head completed"))
  /-- A stream on which nothing more arrives for ten seconds. -/
  | silent (hopen : wire.ending = .open) : Reports peer wire .starved (.error (.timeout .requestHead 10000))

theorem reports_readInTime {wire : Wire} (h : wire.ending = .open ∨ wire.ending = .ended) (peer : Net.Endpoint) :
    Reports peer wire (readHead wire.incoming) (readInTime peer wire) := by
  unfold readInTime read
  cases readHead wire.incoming with
  | complete head rest =>
    cases hparse : Http.Request.parse head with
    | ok parsed =>
      simp only [hparse]
      exact .request hparse
    | error cause =>
      simp only [hparse]
      exact .malformed hparse
  | tooLarge rest => exact .tooLarge
  | starved =>
    rcases h with h | h
    · simp only [Wire.wait, h]
      exact .silent h
    · simp only [Wire.wait, h]
      exact .closedEarly h

theorem foldl_deliver (pieces : List Bytes) {wire : Wire} (h : wire.ending = .open) :
    pieces.foldl Wire.deliver wire = { wire with incoming := wire.incoming ++ pieces.flatten } := by
  induction pieces generalizing wire with
  | nil => simp
  | cons piece pieces ih =>
    have hdeliver := Wire.deliver_of_open h piece
    have hopen : (wire.deliver piece).ending = .open := by
      rw [hdeliver]
      exact h
    rw [List.foldl_cons, ih hopen, hdeliver]
    simp

theorem arrived_eq (pieces : List Bytes) (ended : Bool) :
    arrived pieces ended
      = { Wire.fresh with incoming := pieces.flatten, ending := if ended then .ended else .open } := by
  unfold arrived
  rw [foldl_deliver pieces rfl]
  cases ended
  · simp [Wire.fresh]
  · simp [Wire.fresh, Wire.finish]

/-- **The search for a head comes to exactly one end, wherever the stream is cut**: the shortest head within the limit,
    or as many bytes as a head may have, or the end of what has arrived. It takes no more bytes than a head may have, and
    what is reported is what it came to. -/
theorem readPieces_stops (pieces : List Bytes) :
    (∀ outcome, Stops pieces.flatten outcome ↔ readPieces [] pieces = outcome) ∧
      (∃ taken, pieces.flatten = taken ++ (readPieces [] pieces).left ∧ taken.length ≤ 8192) ∧
      ∀ peer ended, Reports peer (arrived pieces ended) (readPieces [] pieces)
        (readInTime peer (arrived pieces ended)) := by
  have hwhole : readPieces [] pieces = readHead pieces.flatten := readPieces_eq [] pieces
  have hstops : Stops pieces.flatten (readPieces [] pieces) := by
    rw [hwhole]
    show Stops ([].reverse ++ pieces.flatten) (readHeadFrom [] 0 pieces.flatten)
    apply stops_readHeadFrom rfl (Nat.zero_le _)
    intro head _
    exact Nat.zero_le _
  refine ⟨?_, hstops.taken_le, ?_⟩
  · intro outcome
    constructor
    · intro h
      exact hstops.unique h
    · intro h
      exact h ▸ hstops
  · intro peer ended
    have hending : (arrived pieces ended).ending = .open ∨ (arrived pieces ended).ending = .ended := by
      rw [arrived_eq]
      cases ended
      · exact Or.inl rfl
      · exact Or.inr rfl
    have hincoming : (arrived pieces ended).incoming = pieces.flatten := by rw [arrived_eq]
    have hreports := reports_readInTime hending peer
    rw [hincoming, ← hwhole] at hreports
    exact hreports

/-- A carriage return too many does not hide the blank line behind it, and the next blank line is left. -/
example : readPieces [] [[13, 13], [10, 13], [10, 13, 10]] = .complete [13, 13, 10, 13, 10] [13, 10] := by decide

end TextSocket.Inbound
