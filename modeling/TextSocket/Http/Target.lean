import TextSocket.Ascii
import TextSocket.Http.Fault

/-!
# `TextSocket.Http.Target` — what a request asks for

The target of a request has one of four forms: a path with a query, a whole address with scheme and authority,
an authority alone, or a star. Reading checks every byte, forgets a fragment, and keeps the rest as it is.

## Contents

* `Http.Target` — the parts of a target, with `Target.text`;
* `Target.host?`, `Target.port?` — the parts of an authority;
* `Target.parse` — reading.
-/

namespace TextSocket.Http

/-- The target of a request. -/
structure Target where
  /-- The scheme, if the target is a whole address. -/
  scheme : Option Bytes
  /-- The authority, if there is one; it is not empty. -/
  authority : Option Bytes
  /-- The path; empty if the target is an authority alone. -/
  path : Bytes
  /-- The query behind the question mark. -/
  query : Option Bytes
  deriving DecidableEq, Repr

namespace Target

/-! ## Views -/

/-- The path with the query. -/
def pathAndQuery (target : Target) : Bytes :=
  target.path ++ (match target.query with
    | some query => 63 :: query
    | none => [])

/-- The written form. -/
def text (target : Target) : Bytes :=
  (match target.scheme with
    | some scheme => scheme ++ Bytes.ofText "://"
    | none => []) ++
  target.authority.getD [] ++ target.pathAndQuery

/-- The part of an authority behind the credentials. -/
def behindCredentials (authority : Bytes) : Bytes :=
  (authority.reverse.takeWhile (· != 64)).reverse

/-- The host: an address with its brackets, or everything up to the colon. -/
def hostOf (authority : Bytes) : Bytes :=
  let host := behindCredentials authority
  if host.head? = some 91 then host.takeWhile (· != 93) ++ [93] else host.takeWhile (· != 58)

/-- The host of a target. -/
def host? (target : Target) : Option Bytes := target.authority.map hostOf

/-- A port: digits, perhaps behind a plus sign, for a number of at most 65535. -/
def portNumber? (digits : Bytes) : Option UInt16 :=
  let digits := if digits.head? = some 43 then digits.tail else digits
  if digits.isEmpty || !digits.all Ascii.isDigit then none
  else
    let n := digits.foldl (fun n b => n * 10 + (b.toNat - 48)) 0
    if n < 65536 then some (UInt16.ofNat n) else none

/-- The port behind the last colon of an authority. -/
def portOf? (authority : Bytes) : Option UInt16 :=
  if authority.contains 58 then portNumber? (authority.reverse.takeWhile (· != 58)).reverse else none

/-- The port of a target. -/
def port? (target : Target) : Option UInt16 := target.authority.bind portOf?

/-! ## Scheme -/

/-- A byte of a scheme. -/
def isSchemeByte (b : UInt8) : Bool :=
  Ascii.isAlpha b || Ascii.isDigit b || b == 43 || b == 45 || b == 46

/-- The greatest length of a scheme. -/
def schemeLimit : Nat := 64

/-- The scheme that the bytes begin with, and what follows its colon and slashes. The two schemes of the web
    are written in small letters. -/
def cutScheme (bytes : Bytes) : Except PartFault (Option Bytes × Bytes) :=
  let scheme := bytes.takeWhile isSchemeByte
  match bytes.drop scheme.length with
  | 58 :: 47 :: 47 :: rest =>
    let small := scheme.map Ascii.lower
    if small = Bytes.ofText "http" ∨ small = Bytes.ofText "https" then .ok (some small, rest)
    else if schemeLimit < scheme.length then .error .schemeTooLong
    else .ok (some scheme, rest)
  | _ => .ok (none, bytes)

/-! ## Authority -/

/-- The marks that an authority may hold, a percent sign apart. -/
def authorityMarks : Bytes := Bytes.ofText "!$&'()*+,-.:;=@[]_~"

/-- A byte that an authority may hold, a percent sign apart. -/
def isAuthorityByte (b : UInt8) : Bool := Ascii.isAlpha b || Ascii.isDigit b || authorityMarks.contains b

/-- A byte that ends an authority. -/
def endsAuthority (b : UInt8) : Bool := b == 47 || b == 63 || b == 35

/-- What has been seen of an authority. -/
structure AuthorityScan where
  /-- The colons since the credentials or the brackets. -/
  colons : Nat
  /-- Whether a bracket has been opened. -/
  opened : Bool
  /-- Whether it has been closed. -/
  closed : Bool
  /-- Whether a percent sign stands behind the credentials and the brackets. -/
  percent : Bool
  /-- Whether the credentials end here. -/
  atSign : Bool

/-- The most colons of an address in brackets, and of the credentials. -/
def colonLimit : Nat := 8

/-- Passes one byte of an authority. -/
def AuthorityScan.pass (scan : AuthorityScan) (b : UInt8) : Except PartFault AuthorityScan :=
  let scan := { scan with atSign := false }
  if b = 58 then
    if colonLimit ≤ scan.colons then .error .authority else .ok { scan with colons := scan.colons + 1 }
  else if b = 91 then
    if scan.percent || scan.opened then .error .authority else .ok { scan with opened := true }
  else if b = 93 then
    if !scan.opened || scan.closed then .error .authority
    else .ok { scan with closed := true, colons := 0, percent := false }
  else if b = 64 then .ok { scan with atSign := true, colons := 0, percent := false }
  else if b = 37 then .ok { scan with percent := true }
  else if isAuthorityByte b then .ok scan
  else .error .uriCharacter

/-- Checks an authority. It may have one port, and no percent sign outside its credentials. -/
def checkAuthority (authority : Bytes) : Except PartFault Unit := do
  let scan ← authority.foldlM AuthorityScan.pass ⟨0, false, false, false, false⟩
  if scan.opened != scan.closed || 1 < scan.colons || scan.atSign || scan.percent then .error .authority
  else .ok ()

/-- Cuts off an authority and checks it. -/
def cutAuthority (bytes : Bytes) : Except PartFault (Bytes × Bytes) := do
  let authority := bytes.takeWhile fun b => !endsAuthority b
  checkAuthority authority
  return (authority, bytes.drop authority.length)

/-! ## Path and query -/

/-- A byte that a path may hold. From 127 on the bytes have to be valid UTF-8. -/
def isPathByte (b : UInt8) : Bool :=
  b == 33 || b == 34 || (36 ≤ b && b ≤ 59) || b == 61 || (64 ≤ b && b ≤ 95) || (97 ≤ b && b ≤ 126) || 127 ≤ b

/-- A byte that a query may hold. From 127 on the bytes have to be valid UTF-8. -/
def isQueryByte (b : UInt8) : Bool :=
  b == 33 || (36 ≤ b && b ≤ 59) || b == 61 || (63 ≤ b && b ≤ 126) || 127 ≤ b

/-- Reads a path and a query; a fragment is dropped. -/
def readPath (bytes : Bytes) : Except PartFault (Bytes × Option Bytes) :=
  let path := bytes.takeWhile fun b => b != 63 && b != 35
  let query : Option Bytes :=
    match bytes.drop path.length with
    | 63 :: rest => some (rest.takeWhile (· != 35))
    | _ => none
  if !path.all isPathByte || !(query.getD []).all isQueryByte then .error .uriCharacter
  else if (Bytes.text? path).isNone || (Bytes.text? (query.getD [])).isNone then .error .uriCharacter
  else .ok (path, query)

/-! ## Whole targets -/

/-- The greatest length of a target. -/
def lengthLimit : Nat := 65534

/-- A target that is nothing but an authority. -/
def ofAuthority (authority : Bytes) : Target := ⟨none, some authority, [], none⟩

/-- Reads a target of one byte. -/
def parseByte (b : UInt8) : Except PartFault Target :=
  if b = 47 ∨ b = 42 then .ok ⟨none, none, [b], none⟩
  else if endsAuthority b then .error .uriCharacter
  else (checkAuthority [b]).map fun _ => ofAuthority [b]

/-- Reads a target that does not begin with a slash. -/
def parseFull (bytes : Bytes) : Except PartFault Target := do
  let (scheme, rest) ← cutScheme bytes
  let (authority, rest) ← cutAuthority rest
  match scheme with
  | none => if rest.isEmpty then return ofAuthority authority else .error .uriFormat
  | some scheme =>
    if authority.isEmpty then .error .uriFormat
    else
      let (path, query) ← readPath rest
      return ⟨some scheme, some authority, if path.isEmpty then [47] else path, query⟩

/-- Reads a target. -/
def parse (bytes : Bytes) : Except PartFault Target :=
  if lengthLimit < bytes.length then .error .uriTooLong
  else match bytes with
    | [] => .error .emptyUri
    | [b] => parseByte b
    | b :: rest =>
      if b = 47 then (readPath (b :: rest)).map fun (path, query) => ⟨none, none, path, query⟩
      else parseFull (b :: rest)

end Target

end TextSocket.Http
