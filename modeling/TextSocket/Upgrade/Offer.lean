import TextSocket.Header.Fields
import TextSocket.Http.Request
import TextSocket.Socket.Error
import TextSocket.Upgrade.Admission

/-!
# `TextSocket.Upgrade.Offer` — the request with which a client begins

A client asks for an upgrade with five header fields of its own. Configured fields take the place of those with
the same name, and the others are added behind them. The five fields are written first. A value that is not
printable cannot be sent, and then nothing is.

## Contents

* `Upgrade.Offer`, `Offer.make` — the target and the header fields of the request;
* `Offer.endpoint` — where to dial;
* `Offer.render` — the head of the request, and the key in it.
-/

namespace TextSocket.Upgrade

/-- The request with which a client begins. -/
structure Offer where
  /-- What is asked for. -/
  target : Http.Target
  /-- The header fields. -/
  fields : Header.Fields
  deriving DecidableEq

namespace Offer

/-! ## Making an offer -/

/-- A value, which has to be legal. -/
def value (bytes : Bytes) : Except Socket.Error Header.Value :=
  match Header.Value.ofBytes? bytes with
  | some value => .ok value
  | none => .error (.format .headerValue)

/-- The five fields of a client. -/
def ownFields (host key : Header.Value) : Except Socket.Error Header.Fields := do
  let connection ← value (Bytes.ofText "Upgrade")
  let upgrade ← value (Bytes.ofText "websocket")
  let version ← value version
  return .ofList [(.host, host), (.connection, connection), (.upgrade, upgrade),
    (.socketVersion, version), (.socketKey, key)]

/-- The offer for a target, with a key that stands for `nonce`. -/
def make (target : Http.Target) (nonce : Bytes) (configured : Header.Fields) :
    Except Socket.Error Offer := do
  match target.authority with
  | none => .error (.target .noHost)
  | some authority =>
    let host := (authority.dropWhile (· != 64)).tail
    let host := if authority.contains 64 then host else authority
    if host.isEmpty then .error (.target .emptyHost)
    else
      let fields ← ownFields (← value host) (← value (keyOf nonce))
      return ⟨target, fields.override configured⟩

/-! ## Dialling -/

/-- The port that a scheme implies. -/
def schemePort? (scheme : Option Bytes) : Option UInt16 :=
  if scheme = some (Bytes.ofText "wss") then some 443
  else if scheme = some (Bytes.ofText "ws") then some 80
  else none

/-- A host without the brackets of an address. -/
def bareHost (host : Bytes) : Bytes :=
  if host.head? = some 91 ∧ host.getLast? = some 93 then host.tail.dropLast else host

/-- The host and the port to dial. -/
def endpoint (offer : Offer) : Except Socket.Error (Bytes × UInt16) :=
  match offer.target.host? with
  | none => .error (.target .noHost)
  | some host =>
    match offer.target.port? <|> schemePort? offer.target.scheme with
    | none => .error (.target .unsupportedScheme)
    | some port => .ok (bareHost host, port)

/-- How the stream is to be used. -/
inductive Mode where
  /-- As it is. -/
  | plain
  /-- Encrypted. -/
  | encrypted
  deriving DecidableEq, Repr

/-- How the scheme wants the stream to be used. -/
def mode (offer : Offer) : Except Socket.Error Mode :=
  if offer.target.scheme = some (Bytes.ofText "ws") then .ok .plain
  else if offer.target.scheme = some (Bytes.ofText "wss") then .ok .encrypted
  else .error (.target .unsupportedScheme)

/-! ## Writing -/

/-- The names of the fields that are written first, in their order and spelling. -/
def firstNames : List (Header.Name × String) := [
  (.host, "Host"), (.connection, "Connection"), (.upgrade, "Upgrade"),
  (.socketVersion, "Sec-WebSocket-Version"), (.socketKey, "Sec-WebSocket-Key")]

/-- The spelling of any other name. -/
def spelling (name : Header.Name) : String :=
  if name = .socketProtocol then "Sec-WebSocket-Protocol"
  else if name = .origin then "Origin"
  else name.text

/-- What is wrong with a value that is not printable. -/
def unprintable : String := "failed to convert header to a str"

/-- A header line. -/
def fieldLine (name : String) (value : Header.Value) : Except Socket.Error (Bytes × Bytes) :=
  if value.isPrintable then .ok (Bytes.ofText name, value.bytes)
  else .error (.utf8 (unprintable ++ " for header name '" ++ name ++ "' with value: " ++ value.quoted))

/-- Takes the first value of each of the given fields out of `fields` and writes it. -/
def writeFirst (fields : Header.Fields) :
    List (Header.Name × String) → Except Socket.Error (List (Bytes × Bytes) × Header.Fields)
  | [] => .ok ([], fields)
  | (name, spelled) :: more =>
    match fields.get? name with
    | none => .error (.protocol (.missingHeader name))
    | some value => do
      let line ← fieldLine spelled value
      let (lines, fields) ← writeFirst (fields.erase name) more
      return (line :: lines, fields)

/-- The header lines of an offer. -/
def lines (offer : Offer) : Except Socket.Error (List (Bytes × Bytes)) := do
  let (first, others) ← writeFirst offer.fields firstNames
  let others ← others.toList.mapM fun field => fieldLine (spelling field.1) field.2
  return first ++ others

/-- The key of an offer. -/
def key (offer : Offer) : Except Socket.Error Bytes :=
  match offer.fields.get? .socketKey with
  | none => .error (.protocol (.missingHeader .socketKey))
  | some key => if key.isPrintable then .ok key.bytes else .error (.utf8 unprintable)

/-- The subprotocols that are asked for, if any are. -/
def subprotocols (offer : Offer) : Except Socket.Error (Option (List Bytes)) :=
  match offer.fields.get? .socketProtocol with
  | none => .ok none
  | some value =>
    if value.isPrintable then .ok (some ((Ascii.splitOn 44 value.bytes).map Ascii.trimBlanks))
    else .error (.utf8 unprintable)

/-- What the response to an offer has to prove. -/
structure Expectation where
  /-- The proof that the key was seen. -/
  accept : Bytes
  /-- The subprotocols that were asked for. -/
  subprotocols : Option (List Bytes)
  deriving DecidableEq

/-- The head of the request, and what the response has to prove. -/
def render (offer : Offer) : Except Socket.Error (Bytes × Expectation) := do
  let subprotocols ← offer.subprotocols
  let key ← offer.key
  let lines ← offer.lines
  return (Http.Request.render .get offer.target.pathAndQuery lines, ⟨acceptOf key, subprotocols⟩)

end Offer

end TextSocket.Upgrade
