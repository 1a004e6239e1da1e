/-!
# `TextSocket.Url.Punycode` — labels beyond ASCII, written in ASCII

A label of a host name that holds other characters than ASCII is written as its ASCII characters, a hyphen,
and digits in base 36 that say which other characters to insert where. The insertions are sorted by
character; each is the distance from the one before it, in a variable-length number whose digit weights adapt
to the distances seen so far.

## Contents

* `Punycode.threshold`, `Punycode.adapt` — the weights of digits;
* `Punycode.encode`, `Punycode.decode?` — writing and reading.
-/

namespace TextSocket.Url.Punycode

/-! ## Digit weights -/

/-- The least digit that ends a number, at a position and under a bias. -/
def threshold (position bias : Nat) : Nat :=
  if position ≤ bias then 1 else if bias + 26 ≤ position then 26 else position - bias

/-- Divides by 35 until at most 455 is left, and adds 36 for each division. -/
def settle (delta bias : Nat) : Nat :=
  if 455 < delta then settle (delta / 35) (bias + 36) else bias + 36 * delta / (delta + 38)
  termination_by delta
  decreasing_by exact Nat.div_lt_self (by omega) (by omega)

/-- The bias after an insertion: distance, characters so far, and whether it was the first one. -/
def adapt (delta count : Nat) (first : Bool) : Nat :=
  let delta := if first then delta / 700 else delta / 2
  settle (delta + delta / count) 0

/-- The digit with a value below 36. -/
def digit (n : Nat) : Char := if n < 26 then Char.ofNat (97 + n) else Char.ofNat (22 + n)

/-- The value of a digit in either case. -/
def digitValue? (c : Char) : Option Nat :=
  if c.isLower then some (c.toNat - 97)
  else if c.isUpper then some (c.toNat - 65)
  else if c.isDigit then some (c.toNat - 22)
  else none

/-! ## Encoding -/

/-- The digits of a number from a position on; at most `fuel` of them are needed. -/
def digits (bias : Nat) : Nat → Nat → Nat → List Char
  | 0, _, _ => []
  | fuel + 1, position, n =>
    let t := threshold position bias
    if n < t then [digit n]
    else digit (t + (n - t) % (36 - t)) :: digits bias fuel (position + 36) ((n - t) / (36 - t))

/-- A running encoder. -/
structure Encoder where
  /-- The digits so far, the latest first. -/
  written : List Char
  /-- The distance since the last insertion. -/
  delta : Nat
  /-- The bias. -/
  bias : Nat
  /-- The characters inserted so far, ASCII included. -/
  count : Nat

/-- Passes one character of the label while the character `n` is being inserted. -/
def Encoder.pass (basic n : Nat) (e : Encoder) (c : Char) : Encoder :=
  if c.toNat < n then { e with delta := e.delta + 1 }
  else if c.toNat = n then
    { written := (digits e.bias (e.delta + 1) 36 e.delta).reverse ++ e.written
      delta := 0
      bias := adapt e.delta (e.count + 1) (e.count == basic)
      count := e.count + 1 }
  else e

/-- Inserts the given characters in turn, which increase. -/
def Encoder.run (label : List Char) (basic : Nat) : Nat → Encoder → List Nat → Encoder
  | _, e, [] => e
  | reached, e, n :: rest =>
    let e := { e with delta := e.delta + (n - reached) * (e.count + 1) }
    let e := label.foldl (Encoder.pass basic n) e
    Encoder.run label basic (n + 1) { e with delta := e.delta + 1 } rest

/-- Characters beyond ASCII in increasing order, each once. -/
def strangers (label : List Char) : List Nat :=
  ((label.map Char.toNat).filter (128 ≤ ·)).mergeSort.eraseReps

/-- The ASCII form of a label, without the mark that says that it is one. -/
def encode (label : List Char) : List Char :=
  let plain := label.filter (·.toNat < 128)
  let e := Encoder.run label plain.length 128 ⟨[], 0, 72, plain.length⟩ (strangers label)
  plain ++ (if plain.isEmpty then [] else ['-']) ++ e.written.reverse

/-! ## Decoding -/

/-- The greatest number that may occur while digits are read. -/
def limit : Nat := 0x100000000

/-- Reads one number: its value added to `sum`, and the digits behind it. -/
def number? (bias : Nat) : Nat → Nat → Nat → List Char → Option (Nat × List Char)
  | _, _, _, [] => none
  | position, weight, sum, c :: rest =>
    match digitValue? c with
    | none => none
    | some d =>
      let t := threshold position bias
      let sum := sum + d * weight
      if limit ≤ sum then none
      else if d < t then some (sum, rest)
      else if limit ≤ weight * (36 - t) then none
      else number? bias (position + 36) (weight * (36 - t)) sum rest

/-- Inserts the characters that digits say into a label; at most `fuel` of them. The next character is `n` or
    a later one, and the next place is `i` or a later one. -/
def insertAll : Nat → Nat → Nat → Nat → List Char → List Char → Option (List Char)
  | _, _, _, _, label, [] => some label
  | 0, _, _, _, _, _ :: _ => none
  | fuel + 1, n, i, bias, label, c :: rest =>
    match number? bias 36 1 i (c :: rest) with
    | none => none
    | some (next, rest) =>
      let size := label.length + 1
      let n := n + next / size
      let place := next % size
      if h : n.isValidChar then
        insertAll fuel n (place + 1) (adapt (next - i) size (i == 0))
          (label.insertIdx place (Char.ofNatAux n h)) rest
      else none

/-- The label whose ASCII form this is. Everything before the last hyphen stands for itself. -/
def decode? (ascii : List Char) : Option (List Char) :=
  let digits := (ascii.reverse.takeWhile (· != '-')).reverse
  let plain := ascii.take (ascii.length - digits.length - 1)
  if digits.length = ascii.length then insertAll digits.length 128 0 72 [] digits
  else if plain.isEmpty then none
  else insertAll digits.length 128 0 72 plain digits

end TextSocket.Url.Punycode
