import TextSocket.Bytes

/-!
# `TextSocket.Uuid` — universally unique identifiers

An identifier has sixteen bytes. It is written as 32 hexadecimal digits in five groups joined by hyphens, and
read in that form, without the hyphens, in braces, or as a URN.

## Contents

* `Uuid` with `Uuid.text`, `Uuid.version`, and `Uuid.random`, which makes one of random bytes;
* `Uuid.parse` — reading;
* `Uuid.Fault` — why a text is no identifier, as exactly as the text allows.
-/

namespace TextSocket

/-- An identifier of sixteen bytes. -/
structure Uuid where
  /-- The bytes. -/
  bytes : Bytes
  /-- There are sixteen. -/
  size : bytes.length = 16
  deriving DecidableEq

namespace Uuid

/-! ## Writing -/

/-- The number of digits in each group. -/
def groupSizes : List Nat := [8, 4, 4, 4, 12]

/-- Cuts digits into groups of the given sizes. -/
def cut : List Nat → List Char → List (List Char)
  | [], _ => []
  | n :: sizes, digits => digits.take n :: cut sizes (digits.drop n)

/-- The written form: five groups of small digits joined by hyphens. -/
def text (id : Uuid) : String :=
  String.intercalate "-" ((cut groupSizes id.bytes.hex.toList).map String.ofList)

/-- The version number in the seventh byte. -/
def version (id : Uuid) : Nat :=
  (id.bytes.getD 6 0).toNat / 16

/-- An identifier of version 4: all bits are random except those of version and variant. -/
def random (entropy : Nat) : Uuid :=
  let bytes := Bytes.ofNat 16 entropy
  let mark (i : Nat) (b : UInt8) : UInt8 :=
    if i = 6 then b % 16 + 64 else if i = 8 then b % 64 + 128 else b
  ⟨bytes.mapIdx mark, by simp [bytes, Bytes.length_ofNat]⟩

/-! ## Reading -/

/-- Why a text is no identifier. -/
inductive Fault where
  /-- The text is too long, or its digits are too many or too few. -/
  | length (found : Nat)
  /-- A character that is neither a digit nor a hyphen. -/
  | character (found : Char) (index : Nat)
  /-- Hyphens do not make five groups. -/
  | groupCount (found : Nat)
  /-- A group has the wrong length. -/
  | groupLength (group expected found : Nat)
  deriving DecidableEq, Repr

namespace Fault

/-- The wording of a cause. -/
def message : Fault → String
  | length found => "invalid length: found " ++ toString found
  | character found index =>
    "invalid character: found `" ++ String.ofList [found] ++ "` at " ++ toString index
  | groupCount found => "invalid group count: expected 5, found " ++ toString found
  | groupLength group expected found =>
    "invalid group length in group " ++ toString group ++ ": expected " ++ toString expected ++
      ", found " ++ toString found

end Fault

/-- The byte positions at which the five groups start. -/
def groupStarts : List Nat := [0, 9, 14, 19, 24]

/-- The URN form starts with this. -/
def urn : List Char := ['u', 'r', 'n', ':', 'u', 'u', 'i', 'd', ':']

/-- What is left of a text behind given characters that it starts with. -/
def behind? : List Char → List Char → Option (List Char)
  | [], s => some s
  | c :: cs, d :: s => if c = d then behind? cs s else none
  | _ :: _, [] => none

/-- The inside of a text in braces. -/
def unbrace? (s : List Char) : Option (List Char) :=
  match s with
  | '\x7b' :: rest => if rest.getLast? = some '\x7d' then some rest.dropLast else none
  | _ => none

/-- The part of a text that should be hexadecimal, its offset, and whether nothing surrounds it. -/
def core (s : List Char) : List Char × Nat × Bool :=
  match unbrace? s with
  | some inner => (inner, 1, false)
  | none =>
    match behind? urn s with
    | some rest => (rest, urn.length, false)
    | none => (s, 0, true)

/-- The first character that is neither a digit nor a hyphen, with its byte position. -/
def strange? (index : Nat) : List Char → Option (Char × Nat)
  | [] => none
  | c :: rest =>
    if c = '-' ∨ (Bytes.hexValue? c).isSome then strange? (index + c.utf8Size) rest
    else some (c, index)

/-- The positions of the hyphens. -/
def hyphens (index : Nat) : List Char → List Nat
  | [] => []
  | c :: rest =>
    if c = '-' then index :: hyphens (index + 1) rest else hyphens (index + 1) rest

/-- The first group, of those that a hyphen ends, whose hyphen is not where the next group's start wants
    it. -/
def wrongGroup? (group : Nat) : List Nat → List Nat → List Nat → Option Fault
  | start :: next :: starts, hyphen :: more, size :: sizes =>
    if hyphen + 1 = next then wrongGroup? (group + 1) (next :: starts) more sizes
    else some (.groupLength group size (hyphen - start))
  | _, _, _ => none

/-- The fault of a text that is no identifier. -/
def diagnose (s : List Char) : Fault :=
  let total := (String.ofList s).utf8ByteSize
  if 45 < total then .length total
  else
    let (inner, offset, bare) := core s
    match strange? offset inner with
    | some (c, index) => .character c index
    | none =>
      let marks := hyphens 0 inner
      if marks.isEmpty && bare then .length total
      else if marks.length ≠ 4 then .groupCount (marks.length + 1)
      else (wrongGroup? 0 groupStarts marks groupSizes).getD (.groupLength 4 12 (total - 24))

/-- The bytes that pairs of hexadecimal digits write. -/
def bytesOfDigits? : List Char → Option Bytes
  | [] => some []
  | a :: b :: rest =>
    match Bytes.hexValue? a, Bytes.hexValue? b, bytesOfDigits? rest with
    | some a, some b, some bytes => some (UInt8.ofNat (a * 16 + b) :: bytes)
    | _, _, _ => none
  | [_] => none

/-- The identifier that 32 digits write. -/
def ofDigits? (digits : List Char) : Option Uuid :=
  match bytesOfDigits? digits with
  | some bytes => if h : bytes.length = 16 then some ⟨bytes, h⟩ else none
  | none => none

/-- The identifier that five groups joined by hyphens write. -/
def ofGroups? (s : List Char) : Option Uuid :=
  if hyphens 0 s = [8, 13, 18, 23] then ofDigits? (s.filter (· ≠ '-')) else none

/-- Reads an identifier in any of its forms. -/
def parse (text : String) : Except Fault Uuid :=
  let s := text.toList
  let found : Option Uuid :=
    match ofDigits? s with
    | some id => some id
    | none => ofGroups? (core s).1
  match found with
  | some id => .ok id
  | none => .error (diagnose s)

end Uuid

end TextSocket
