/-!
# `TextSocket.Net.Ipv4` — addresses and endpoints

## Contents

* `Net.Ipv4` — an address of four octets, with its dotted form and the reading of it;
* `Net.Endpoint` — an address and a port.
-/

namespace TextSocket.Net

/-- An address of four octets. -/
structure Ipv4 where
  /-- First octet. -/
  a : UInt8
  /-- Second octet. -/
  b : UInt8
  /-- Third octet. -/
  c : UInt8
  /-- Fourth octet. -/
  d : UInt8
  deriving DecidableEq, Repr

namespace Ipv4

/-- The address that a 32-bit number stands for, the first octet being the most significant. -/
def ofNat (n : Nat) : Ipv4 :=
  ⟨UInt8.ofNat (n / 0x1000000), UInt8.ofNat (n / 0x10000), UInt8.ofNat (n / 0x100), UInt8.ofNat n⟩

/-- The dotted form. -/
def text (address : Ipv4) : String :=
  toString address.a.toNat ++ "." ++ toString address.b.toNat ++ "." ++ toString address.c.toNat ++
    "." ++ toString address.d.toNat

/-- An octet in plain digits: no sign, no leading zero, at most 255. -/
def octet? (digits : List Char) : Option UInt8 :=
  if digits.isEmpty || !digits.all Char.isDigit || (digits.head? == some '0' && 1 < digits.length) then
    none
  else
    let n := Nat.ofDigitChars 10 digits 0
    if n < 256 then some (UInt8.ofNat n) else none

/-- Cuts a text at every occurrence of a character. -/
def cutAt (separator : Char) : List Char → List (List Char)
  | [] => [[]]
  | c :: rest =>
    if c = separator then [] :: cutAt separator rest
    else match cutAt separator rest with
      | [] => [[c]]
      | piece :: pieces => (c :: piece) :: pieces

/-- Reads the dotted form. -/
def parse? (text : String) : Option Ipv4 :=
  match (cutAt '.' text.toList).mapM octet? with
  | some [a, b, c, d] => some ⟨a, b, c, d⟩
  | _ => none

/-- The address at which a host talks to itself. -/
def localhost : Ipv4 := ⟨127, 0, 0, 1⟩

/-- The address that stands for all addresses of a host. -/
def any : Ipv4 := ⟨0, 0, 0, 0⟩

/-- Whether an address belongs to the host itself. -/
def isLoopback (address : Ipv4) : Bool := address.a == 127

end Ipv4

/-- An address and a port. -/
structure Endpoint where
  /-- The address. -/
  address : Ipv4
  /-- The port. -/
  port : UInt16
  deriving DecidableEq, Repr

/-- The written form of an endpoint. -/
def Endpoint.text (endpoint : Endpoint) : String :=
  endpoint.address.text ++ ":" ++ toString endpoint.port.toNat

end TextSocket.Net
