/-!
# `TextSocket.Decimal.Shortest` — the fewest digits that read back

A binary floating point number stands for every real number that rounds to it. This module finds the shortest
decimal among those, and the one nearest to the number if several are equally short. All arithmetic is
exact, on natural numbers.

## Contents

* `Decimal.Positive` — a positive number `m · 2^e` and the interval that rounds to it;
* `Positive.shortest` — its digits and the power of ten of the last one;
* `Decimal.Layout` — how digits are set: where positional writing ends, how an exponent is written.
-/

namespace TextSocket.Decimal

/-! ## The interval of a number -/

/-- A positive number `m · 2^e`, as a 64-bit floating point word holds it. -/
structure Positive where
  /-- The whole number that is scaled. -/
  mantissa : Nat
  /-- The power of two. -/
  exponent : Int
  /-- Whether the number below is only half as far away as the number above. -/
  nearBelow : Bool

namespace Positive

/-- The number of a finite word with its sign removed; none for zero, infinities and NaN. -/
def ofBits? (bits : UInt64) : Option Positive :=
  let fraction : Nat := bits.toNat % 0x10000000000000
  let biased : Nat := bits.toNat / 0x10000000000000 % 0x800
  if biased == 2047 then none
  else if biased == 0 then
    if fraction == 0 then none else some ⟨fraction, -1074, false⟩
  else some ⟨0x10000000000000 + fraction, (biased : Int) - 1075, fraction == 0 && biased > 1⟩

/-- Four times the mantissa: the unit in which the interval's ends are whole numbers. -/
def scaled (x : Positive) : Nat := 4 * x.mantissa

/-- The lower end of the interval, in quarters of the mantissa's unit. -/
def lower (x : Positive) : Nat := x.scaled - (if x.nearBelow then 1 else 2)

/-- The upper end of the interval, in quarters of the mantissa's unit. -/
def upper (x : Positive) : Nat := x.scaled + 2

/-- Compares `a · 2^(e-2)` with `c · 10^g`: the two as whole numbers of a common unit. -/
def onGrid (x : Positive) (g : Int) (a c : Nat) : Nat × Nat :=
  let e := x.exponent - 2
  (a * Nat.pow 2 e.toNat * Nat.pow 10 (-g).toNat, c * Nat.pow 10 g.toNat * Nat.pow 2 (-e).toNat)

/-- Whether the grid point `c · 10^g` lies in the interval. The ends belong to an even mantissa. -/
def admits (x : Positive) (g : Int) (c : Nat) : Bool :=
  let low := x.onGrid g x.lower c
  let high := x.onGrid g x.upper c
  if x.mantissa % 2 == 0 then low.1 ≤ low.2 && high.2 ≤ high.1
  else low.1 < low.2 && high.2 < high.1

/-- The last grid point that is not above the number. -/
def below (x : Positive) (g : Int) : Nat :=
  let at1 := x.onGrid g x.scaled 1
  at1.1 / at1.2

/-- The power of ten of the number's first digit. -/
def magnitude (x : Positive) : Int :=
  (Nat.toDigits 10 (x.below (-400))).length - 401

/-! ## Choice of the digits -/

/-- The grid point in the interval that is nearest to the number, among its two neighbours. -/
def pick (x : Positive) (g : Int) : Option Nat :=
  let c := x.below g
  match x.admits g c, x.admits g (c + 1) with
  | true, false => some c
  | false, true => some (c + 1)
  | false, false => none
  | true, true =>
    let down := x.onGrid g x.scaled c
    let up := x.onGrid g x.scaled (c + 1)
    let toDown := down.1 - down.2
    let toUp := up.2 - up.1
    if toDown < toUp || (toDown == toUp && c % 2 == 0) then some c else some (c + 1)

/-- Tries grids of one digit, two digits and so on, `fuel` of them. -/
def search (x : Positive) (g : Int) : Nat → Nat × Int
  | 0 => (x.below g, g)
  | fuel + 1 =>
    match x.pick g with
    | some c => (c, g)
    | none => x.search (g - 1) fuel

/-- The shortest digits that read back as the number, and the power of ten of the last digit. Seventeen
    digits always suffice. -/
def shortest (x : Positive) : Nat × Int :=
  x.search x.magnitude 17

end Positive

/-! ## Setting the digits -/

/-- How a number is set. The power of ten of the first digit decides between the two ways to write it. -/
structure Layout where
  /-- The least power that is written positionally. -/
  positionalFrom : Int
  /-- The greatest power that is written positionally. -/
  positionalTo : Int
  /-- What stands between the digits and the exponent. -/
  exponentMark : String
  /-- The sign of an exponent that is not negative. -/
  plus : String

namespace Layout

/-- Sets digits whose last one has the power of ten `g`. A positional number has a digit on either side of
    the point. -/
def set (layout : Layout) (digits : List Char) (g : Int) : String :=
  let power := g + digits.length - 1
  if layout.positionalFrom ≤ power ∧ power ≤ layout.positionalTo then
    if 0 ≤ g then
      String.ofList (digits ++ List.replicate g.toNat '0') ++ ".0"
    else if 0 ≤ power then
      String.ofList (digits.take (power.toNat + 1)) ++ "." ++
        String.ofList (digits.drop (power.toNat + 1))
    else
      "0." ++ String.ofList (List.replicate (-power - 1).toNat '0' ++ digits)
  else
    let tail := digits.drop 1
    String.ofList (digits.take 1) ++ (if tail.isEmpty then "" else "." ++ String.ofList tail) ++
      layout.exponentMark ++ (if power < 0 then "-" else layout.plus) ++ toString power.natAbs

/-- The digits without the zeros at their end, and the power of the last digit that is left. -/
def trimZeros : List Char → Int → List Char × Int
  | digits, g =>
    let zeros := digits.reverse.takeWhile (· == '0')
    (digits.take (digits.length - zeros.length), g + zeros.length)

/-- Sets a floating point number by its shortest digits. Infinities and NaN have no digits and are named. -/
def real (layout : Layout) (x : Float) : String :=
  let sign := if x.toBits.toNat ≥ 0x8000000000000000 then "-" else ""
  if x.isNaN then "NaN"
  else if x.isInf then sign ++ "inf"
  else match Positive.ofBits? x.toBits with
    | none => sign ++ "0.0"
    | some p =>
      let digits := trimZeros (Nat.toDigits 10 p.shortest.1) p.shortest.2
      sign ++ layout.set digits.1 digits.2

end Layout

end TextSocket.Decimal
