import TextSocket.Bytes

/-!
# `TextSocket.Base64` — bytes in letters

Three bytes are written as four characters of six bits each. A shorter group at the end is filled up with
zero bits, and its missing characters are written as `=`. Every byte string has one written form, and reading
accepts nothing else.

## Contents

* `Base64.encode`, `Base64.decode?`.
-/

namespace TextSocket.Base64

/-! ## Characters -/

/-- The character of six bits. -/
def symbol (n : Nat) : UInt8 :=
  if n < 26 then UInt8.ofNat (65 + n)
  else if n < 52 then UInt8.ofNat (97 + (n - 26))
  else if n < 62 then UInt8.ofNat (48 + (n - 52))
  else if n = 62 then 43
  else 47

/-- The six bits of a character. -/
def value? (b : UInt8) : Option Nat :=
  if 65 ≤ b && b ≤ 90 then some (b.toNat - 65)
  else if 97 ≤ b && b ≤ 122 then some (b.toNat - 97 + 26)
  else if 48 ≤ b && b ≤ 57 then some (b.toNat - 48 + 52)
  else if b = 43 then some 62
  else if b = 47 then some 63
  else none

/-- The character that fills up the last group. -/
def pad : UInt8 := 61

/-! ## Writing -/

/-- The written form. -/
def encode : Bytes → Bytes
  | [] => []
  | [a] =>
    let n := a.toNat * 16
    [symbol (n / 64), symbol (n % 64), pad, pad]
  | [a, b] =>
    let n := (a.toNat * 256 + b.toNat) * 4
    [symbol (n / 4096), symbol (n / 64 % 64), symbol (n % 64), pad]
  | a :: b :: c :: rest =>
    let n := (a.toNat * 256 + b.toNat) * 256 + c.toNat
    symbol (n / 262144) :: symbol (n / 4096 % 64) :: symbol (n / 64 % 64) :: symbol (n % 64) :: encode rest

/-! ## Reading -/

/-- The bytes of the last group: one, two or three. The filling bits must be zero. -/
def lastGroup? (a b c d : UInt8) : Option Bytes :=
  match value? a, value? b with
  | some x, some y =>
    if d = pad then
      if c = pad then
        if y % 16 = 0 then some [UInt8.ofNat ((x * 64 + y) / 16)] else none
      else match value? c with
        | some z =>
          let n := (x * 64 + y) * 64 + z
          if z % 4 = 0 then some [UInt8.ofNat (n / 1024), UInt8.ofNat (n / 4)] else none
        | none => none
    else match value? c, value? d with
      | some z, some w =>
        let n := ((x * 64 + y) * 64 + z) * 64 + w
        some [UInt8.ofNat (n / 65536), UInt8.ofNat (n / 256), UInt8.ofNat n]
      | _, _ => none
  | _, _ => none

/-- The bytes of a group that is followed by others: always three. -/
def group? (a b c d : UInt8) : Option Bytes :=
  if c = pad ∨ d = pad then none else lastGroup? a b c d

/-- The bytes whose written form this is. -/
def decode? : Bytes → Option Bytes
  | [] => some []
  | [a, b, c, d] => lastGroup? a b c d
  | a :: b :: c :: d :: rest =>
    match group? a b c d, decode? rest with
    | some three, some more => some (three ++ more)
    | _, _ => none
  | _ => none

end TextSocket.Base64
