import TextSocket.Base64
import TextSocket.Sha1

/-!
# `TextSocket.Upgrade.Key` — the proof that a key was seen

A client sends a key, and the server proves that it has seen the key and speaks the protocol: it digests the key
together with an identifier that stands for the protocol.

## Contents

* `Upgrade.nonceLength`, `Upgrade.keyOf`, `Upgrade.isKey` — keys;
* `Upgrade.acceptOf` — the proof.
-/

namespace TextSocket.Upgrade

/-- The number of random bytes that a key stands for. -/
def nonceLength : Nat := 16

/-- The key that stands for random bytes. -/
def keyOf (nonce : Bytes) : Bytes := Base64.encode nonce

/-- Whether bytes are the key for some random bytes. -/
def isKey (key : Bytes) : Bool :=
  match Base64.decode? key with
  | some nonce => nonce.length == nonceLength
  | none => false

/-- The identifier that stands for the protocol. -/
def protocolId : Bytes := Bytes.ofText "258EAFA5-E914-47DA-95CA-C5AB0DC85B11"

/-- The proof that a key was seen. -/
def acceptOf (key : Bytes) : Bytes := Base64.encode (Sha1.digest (key ++ protocolId))

end TextSocket.Upgrade
