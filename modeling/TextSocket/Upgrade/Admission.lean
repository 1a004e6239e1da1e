import TextSocket.Header.Fields
import TextSocket.Upgrade.Key

/-!
# `TextSocket.Upgrade.Admission` — which requests may be upgraded

A request asks for an upgrade with four header fields. They are checked in a fixed order, and the first one that
is not as it should be decides why the request is refused. Of several values of a field the first one counts.

## Contents

* `Upgrade.Refusal` — why a request is refused, with its wording;
* `Upgrade.judge` — the checks; an admitted request gets the proof that its key was seen.
-/

namespace TextSocket.Upgrade

/-- Why a request is refused. -/
inductive Refusal where
  /-- The method is not `GET`. -/
  | method
  /-- There is no connection field. -/
  | noConnection
  /-- The connection field does not list the upgrade. -/
  | connectionWithoutUpgrade
  /-- There is no upgrade field. -/
  | noUpgrade
  /-- The upgrade field names another protocol. -/
  | upgradeToOther
  /-- The version field is absent or names another version. -/
  | version
  /-- There is no key. -/
  | noKey
  /-- The key is empty. -/
  | emptyKey
  /-- The key does not stand for 16 bytes. -/
  | badKey
  /-- The response could not be written. -/
  | unwritten
  deriving DecidableEq, Repr

namespace Refusal

/-- The wording of a cause. -/
def reason : Refusal → String
  | method => "Method not allowed"
  | noConnection => "Missing Connection header"
  | connectionWithoutUpgrade => "Connection header must contain 'upgrade'"
  | noUpgrade => "Missing Upgrade header"
  | upgradeToOther => "Upgrade header must be 'websocket'"
  | version => "Unsupported Sec-WebSocket-Version, only 13 is accepted"
  | noKey => "Missing Sec-WebSocket-Key header"
  | emptyKey => "Empty Sec-WebSocket-Key header"
  | badKey => "Sec-WebSocket-Key must be a base64-encoded 16-byte nonce"
  | unwritten => "Failed to write upgrade response"

/-- What every refusal begins with. -/
def bodyStart : String := "Upgrade failed: "

/-- The body of the response to a refused request. -/
def body (refusal : Refusal) : Bytes := Bytes.ofText (bodyStart ++ refusal.reason ++ "\n")

end Refusal

/-- The version of the protocol. -/
def version : Bytes := Bytes.ofText "13"

/-- Whether a printable value lists a token, in any case. -/
def lists (token : Bytes) (value : Header.Value) : Bool :=
  value.isPrintable &&
    (Ascii.splitOn 44 value.bytes).any fun element => Ascii.equalFold (Ascii.trimBlanks element) token

/-- Whether a printable value is a token, in any case. -/
def isToken (token : Bytes) (value : Header.Value) : Bool :=
  value.isPrintable && Ascii.equalFold value.bytes token

/-- Checks the header fields of a request. -/
def judge (fields : Header.Fields) : Except Refusal Bytes :=
  match fields.get? .connection with
  | none => .error .noConnection
  | some connection =>
    if !lists (Bytes.ofText "upgrade") connection then .error .connectionWithoutUpgrade
    else match fields.get? .upgrade with
      | none => .error .noUpgrade
      | some upgrade =>
        if !isToken (Bytes.ofText "websocket") upgrade then .error .upgradeToOther
        else if (fields.get? .socketVersion).map Header.Value.bytes ≠ some version then .error .version
        else match fields.get? .socketKey with
          | none => .error .noKey
          | some key =>
            if key.bytes.isEmpty then .error .emptyKey
            else if !isKey key.bytes then .error .badKey
            else .ok (acceptOf key.bytes)

end TextSocket.Upgrade
