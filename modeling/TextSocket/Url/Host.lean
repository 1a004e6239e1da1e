import TextSocket.Net.Ipv6
import TextSocket.Url.Domain

/-!
# `TextSocket.Url.Host` — the host of a URL

A host of the web is a name or an address. A name whose last label is a number is an address of four octets,
which may be spelled in the older ways too: in hexadecimal or octal, and with fewer than four parts, the last
of which then covers the remaining octets. Hosts of other schemes are kept as they are written.

## Contents

* `Url.Host` — names and addresses, with `Host.text`;
* `Url.lenientIpv4?`, `Url.endsInNumber` — addresses of four octets in all their spellings;
* `Host.ofWeb`, `Host.ofOther` — reading.
-/

namespace TextSocket.Url

/-- The host of a URL. -/
inductive Host where
  /-- A name. -/
  | name (text : String)
  /-- An address of four octets. -/
  | ipv4 (address : Net.Ipv4)
  /-- An address of eight words. -/
  | ipv6 (address : Net.Ipv6)
  deriving DecidableEq

namespace Host

/-- The written form. -/
def text : Host → String
  | name text => text
  | ipv4 address => address.text
  | ipv6 address => "[" ++ address.text ++ "]"

end Host

/-! ## Addresses of four octets -/

/-- The number that digits write in a base. -/
def numberIn? (base : Nat) (digits : List Char) : Option Nat :=
  digits.foldlM (fun n c =>
    match Bytes.hexValue? c with
    | some d => if d < base then some (n * base + d) else none
    | none => none) 0

/-- A number in decimal, in hexadecimal behind `0x`, or in octal behind `0`. -/
def lenientNumber? : List Char → Option Nat
  | [] => none
  | '0' :: 'x' :: digits => numberIn? 16 digits
  | '0' :: 'X' :: digits => numberIn? 16 digits
  | '0' :: d :: digits => numberIn? 8 (d :: digits)
  | digits => numberIn? 10 digits

/-- The parts of a dotted text, without an empty one at the end. -/
def dottedParts (text : List Char) : List (List Char) :=
  let parts := Net.Ipv4.cutAt '.' text
  if 1 < parts.length && parts.getLast? == some [] then parts.dropLast else parts

/-- Whether the last part of a name is a number. -/
def endsInNumber (text : List Char) : Bool :=
  match (dottedParts text).getLast? with
  | none => false
  | some [] => false
  | some last => last.all Char.isDigit || (lenientNumber? last).isSome

/-- An address of four octets. The last part covers the octets that the others leave. -/
def lenientIpv4? (text : List Char) : Option Net.Ipv4 :=
  let parts := dottedParts text
  if 4 < parts.length then none
  else match parts.mapM lenientNumber? with
    | none => none
    | some numbers =>
      match numbers.reverse with
      | [] => none
      | last :: before =>
        if before.any (255 < ·) || Nat.pow 256 (4 - before.length) ≤ last then none
        else
          let high := before.reverse.foldl (fun n octet => n * 256 + octet) 0
          some (.ofNat (high * Nat.pow 256 (4 - before.length) + last))

/-! ## Reading -/

/-- The inside of a text in brackets; `none` if the bracket is not closed. -/
def bracketed? (text : List Char) : Option (List Char) :=
  if text.getLast? = some ']' && 1 < text.length then some (text.drop 1).dropLast else none

/-- Reads an address in brackets. -/
def Host.ofBrackets (text : List Char) : Except Fault Host :=
  match (bracketed? text).bind Net.Ipv6.parse? with
  | some address => .ok (.ipv6 address)
  | none => .error .badIpv6

/-- Reads a host of the web. -/
def Host.ofWeb (text : List Char) : Except Fault Host :=
  if text.head? = some '[' then Host.ofBrackets text
  else match toAscii? text with
    | none => .error .badDomain
    | some [] => .error .emptyHost
    | some ascii =>
      if endsInNumber ascii then
        match lenientIpv4? ascii with
        | some address => .ok (.ipv4 address)
        | none => .error .badIpv4
      else .ok (.name (String.ofList ascii))

/-- A character that no host of another scheme may hold. -/
def isForbiddenInHost (c : Char) : Bool :=
  c.toNat == 0 || "\t\n\r #/:<>?@[\\]^|".toList.contains c

/-- Reads a host of another scheme, which may be empty. -/
def Host.ofOther (text : List Char) : Except Fault Host :=
  if text.head? = some '[' then Host.ofBrackets text
  else if text.any isForbiddenInHost then .error .badHostCharacter
  else .ok (.name (String.ofList (encode isControlEscape text)))

end TextSocket.Url
