import Mathlib.Tactic.SplitIfs
import TextSocket.Proofs.Base64
import TextSocket.Proofs.Connection.Receiving
import TextSocket.Proofs.Http.Request
import TextSocket.Proofs.Http.Response
import TextSocket.Proofs.Inbound.Head

/-!
# `Proofs.Inbound.Upgrade` — every upgrade is answered once

An upgrade puts one response on the stream, whatever the request is like. A request that is admitted gets the head of a
response that ends the handshake, and **the connection begins with the bytes behind the head of the request**: frames
that have come together with it are read as messages. Any other request gets a refusal, which says which check it has
failed and nothing else about it.

The peer must take the response. How much that is at most is known beforehand (`answerLimit`).

## Contents

* `judge_ok`, `length_switching`, `length_refusal` — what an answer depends on, and its length;
* `Switches`, `Refuses`, `Answers` — what an upgrade comes to;
* `upgrade_answers` — the main result.
-/

namespace TextSocket.Inbound

open Http (Request Response)
open Http.Head (EndsAtBlankLine)
open Net (Attempt Wire)
open Upgrade (judge Refusal)

/-! ## Answers -/

/-- An admitted request has a key, and the proof is made of it. -/
theorem judge_ok {fields : Header.Fields} {accept : Bytes} (h : judge fields = .ok accept) :
    ∃ key, fields.get? .socketKey = some key ∧ accept = Upgrade.acceptOf key.bytes := by
  unfold judge at h
  split at h
  · cases h
  · split at h
    · cases h
    · split at h
      · cases h
      · split_ifs at h
        split at h
        · cases h
        · next key hkey =>
          split_ifs at h
          cases h
          exact ⟨key, hkey, rfl⟩

/-- No answer to a request has more bytes. -/
def answerLimit : Nat := 256

theorem length_refusal (refusal : Refusal) :
    (Http.refusal .serviceUnavailable refusal.body).length ≤ answerLimit := by
  cases refusal <;> decide +kernel

theorem length_switching (key : Bytes) : (Http.switching (Upgrade.acceptOf key)).length ≤ answerLimit := by
  have accept : (Upgrade.acceptOf key).length = 28 := by
    rw [Upgrade.acceptOf, Base64.length_encode, Sha1.length_digest]
  have frame (accept : Bytes) : (Http.switching accept).length = (Http.switching []).length + accept.length := by
    simp [Http.switching, Http.Head.write, Http.Head.writeField]
    omega
  have empty : (Http.switching []).length = 101 := by decide +kernel
  rw [frame, accept, empty]
  decide

theorem visible_acceptOf (key : Bytes) : ∀ b ∈ Upgrade.acceptOf key, Ascii.IsVisible b :=
  Base64.visible_encode _

/-- What is put on a stream that takes it: it is there, and nothing else is changed. -/
theorem put_takes {inbound : Inbound} {bytes : Bytes} (htakes : inbound.wire.Takes answerLimit)
    (hfits : bytes.length ≤ answerLimit) :
    ∃ room, inbound.put bytes
      = (.ok (), { inbound with wire := { inbound.wire with outgoing := inbound.wire.outgoing ++ bytes, room } }) := by
  obtain ⟨room, hwrite⟩ := Wire.write_takes htakes hfits
  refine ⟨room, ?_⟩
  rw [put, hwrite]
  simp only [if_true]

/-! ## What an upgrade comes to -/

/-- **A connection behind one response.** The stream of a request had `wire` and, behind the head, `rest`. -/
structure Switches (wire : Wire) (rest : Bytes) (request : Request) (connection : Connection) : Prop where
  /-- The response that ends the handshake has been put on the stream and nothing else. It is over with its first blank
      line, and proves that the key was seen. -/
  answer : ∃ key accept, request.fields.get? .socketKey = some key ∧
    accept = Base64.encode (Sha1.digest (key.bytes ++ Upgrade.protocolId)) ∧
    connection.socket.wire.outgoing = wire.outgoing ++ Http.switching accept ∧
    EndsAtBlankLine (Http.switching accept) ∧
    Response.parse (Http.switching accept) = .found ⟨1, 101, Http.switchingLines accept⟩ []
  /-- What was behind the head is the input of the connection. -/
  input : connection.socket.wire.incoming = rest
  /-- Messages in it, and in what arrives later, are read. -/
  reads : ∀ {events : List Connection.Event} {h : Connection.History} {frames : List Frame}
    {contents : List Socket.Content} {tail future : Bytes}, (∀ event ∈ events, event.IsCalm) →
    (∀ frame ∈ frames, Socket.Legible .server frame) → Socket.Carries none frames contents →
    h = (Connection.History.start connection).run events →
    h.arrived ++ future = frames.flatMap Frame.encode ++ tail →
    (h.connection.socket.wire.ending = .ended → future = []) → Connection.Receives h contents tail future

/-- The check that a request has failed. -/
def Fails (request : Request) (refusal : Refusal) : Prop :=
  request.method ≠ .get ∧ refusal = .method ∨ request.method = .get ∧ judge request.fields = .error refusal

/-- **A failure behind one refusal.** -/
structure Refuses (wire : Wire) (request : Request) (cause : Error) (after : Wire) : Prop where
  /-- One refusal has been put on the stream and nothing else. It says which check the request has failed. -/
  answer : ∃ refusal body, Fails request refusal ∧
    body = Bytes.ofText ("Upgrade failed: " ++ refusal.reason ++ "\n") ∧
    after.outgoing = wire.outgoing ++ Http.refusal .serviceUnavailable body ∧
    Response.readAll? (Http.refusal .serviceUnavailable body) = some [(.serviceUnavailable, body)] ∧
    ∃ response, Response.parse (Http.refusal .serviceUnavailable body) = .found response body ∧
      response.bodyLength? = some body.length
  /-- The failure says whether it was the method. -/
  cause : cause = .methodNotAllowed ∧ request.method ≠ .get ∨ cause = .upgradeFailed ∧ request.method = .get

/-- **What an upgrade comes to**: a connection if the request asks for it as it should, and a failure otherwise. -/
structure Answers (wire : Wire) (rest : Bytes) (request : Request) (upgraded : Upgraded) : Prop where
  /-- There is a connection exactly if the request is admitted. -/
  connects : (∃ connection, upgraded = .connected connection) ↔
    request.method = .get ∧ ∃ accept, judge request.fields = .ok accept
  /-- The connection. -/
  connected : ∀ connection, upgraded = .connected connection → Switches wire rest request connection
  /-- The failure. -/
  refused : ∀ cause after, upgraded = .refused cause after → Refuses wire request cause after

section upgrade

variable {wire : Wire} {rest : Bytes} {inbound : Inbound} (config : Config) (id : ConnectionId)

/-- An admitted request. -/
theorem upgrade_admitted (htakes : inbound.wire.Takes answerLimit) (hget : inbound.request.method = .get)
    {accept : Bytes} (hjudge : judge inbound.request.fields = .ok accept) :
    ∃ room, inbound.upgrade config id = .connected (.ofSocket id config (.ofWire .server
      { inbound.wire with outgoing := inbound.wire.outgoing ++ Http.switching accept, room }
      config.bufferSize.toNat fun _ => ⟨0, 0, 0, 0⟩)) := by
  obtain ⟨key, -, rfl⟩ := judge_ok hjudge
  obtain ⟨room, hput⟩ := put_takes htakes (length_switching key.bytes)
  refine ⟨room, ?_⟩
  rw [upgrade, if_neg (not_not_intro hget)]
  simp only [hjudge, hput]

/-- A request that fails a check. -/
theorem upgrade_failed (htakes : inbound.wire.Takes answerLimit) {refusal : Refusal}
    (hfails : Fails inbound.request refusal) :
    ∃ room, inbound.upgrade config id = .refused
      (if inbound.request.method = .get then .upgradeFailed else .methodNotAllowed)
      { inbound.wire with
        outgoing := inbound.wire.outgoing ++ Http.refusal .serviceUnavailable refusal.body, room } := by
  obtain ⟨room, hput⟩ := put_takes htakes (length_refusal refusal)
  have hrefuse : (inbound.refuse refusal).wire = { inbound.wire with
      outgoing := inbound.wire.outgoing ++ Http.refusal .serviceUnavailable refusal.body, room } := by
    rw [refuse, respond, hput]
  refine ⟨room, ?_⟩
  rw [upgrade, ← hrefuse]
  rcases hfails with ⟨hother, rfl⟩ | ⟨hget, hjudge⟩
  · rw [if_pos hother, if_neg hother]
  · rw [if_neg (not_not_intro hget), if_pos hget]
    simp only [hjudge]

theorem switches_of_judge (hhealthy : wire.Healthy) {request : Request} {accept : Bytes}
    (hjudge : judge request.fields = .ok accept) (room : Option Nat) (threshold : Nat) (keys : Nat → MaskKey) :
    Switches wire rest request (.ofSocket id config (.ofWire .server
      { wire.take rest with outgoing := wire.outgoing ++ Http.switching accept, room } threshold keys)) := by
  obtain ⟨key, hkey, rfl⟩ := judge_ok hjudge
  have visible := visible_acceptOf key.bytes
  constructor
  case answer =>
    refine ⟨key, _, hkey, rfl, rfl, Http.endsAtBlankLine_switching visible, ?_⟩
    have hparse := Http.parse_switching visible []
    rw [List.append_nil] at hparse
    exact hparse
  case input => rfl
  case reads =>
    intro events h frames contents tail future hcalm hlegible hcarries hrun hstream hfinal
    subst hrun
    have hbehind : Wire.Healthy { wire.take rest with
        outgoing := wire.outgoing ++ Http.switching (Upgrade.acceptOf key.bytes), room } :=
      ⟨hhealthy.ending, hhealthy.shut⟩
    have hstart := Connection.receiving_healthy id config .server threshold keys hbehind hlegible hcarries tail
    exact (hstart.run hcalm).receives hstream hfinal

theorem refuses_of_fails {request : Request} {refusal : Refusal} (hfails : Fails request refusal)
    (room : Option Nat) :
    Refuses wire request (if request.method = .get then .upgradeFailed else .methodNotAllowed)
      { wire.take rest with
        outgoing := wire.outgoing ++ Http.refusal .serviceUnavailable refusal.body, room } := by
  constructor
  case answer =>
    refine ⟨refusal, refusal.body, hfails, rfl, rfl, ?_, ?_⟩
    · have hread := Http.readAll?_flatMap [(.serviceUnavailable, refusal.body)]
      rw [List.flatMap_cons, List.flatMap_nil, List.append_nil] at hread
      exact hread
    · have hparse := Http.parse_refusal .serviceUnavailable refusal.body []
      rw [List.append_nil, List.append_nil] at hparse
      exact ⟨_, hparse, Http.bodyLength?_refusal _ _⟩
  case cause =>
    by_cases hget : request.method = .get
    · exact .inr ⟨if_pos hget, hget⟩
    · exact .inl ⟨if_neg hget, hget⟩

/-- A request is admitted, or fails one check. -/
theorem admitted_or_fails (request : Request) :
    (request.method = .get ∧ ∃ accept, judge request.fields = .ok accept) ∨ ∃ refusal, Fails request refusal := by
  by_cases hget : request.method = .get
  · cases hjudge : judge request.fields with
    | ok accept => exact .inl ⟨hget, accept, rfl⟩
    | error refusal => exact .inr ⟨refusal, .inr ⟨hget, hjudge⟩⟩
  · exact .inr ⟨.method, .inl ⟨hget, rfl⟩⟩

theorem Fails.not_admitted {request : Request} {refusal : Refusal} (h : Fails request refusal) :
    ¬ (request.method = .get ∧ ∃ accept, judge request.fields = .ok accept) := by
  rintro ⟨hget, accept, hjudge⟩
  rcases h with ⟨hother, -⟩ | ⟨-, herror⟩
  · exact hother hget
  · rw [hjudge] at herror
    cases herror

/-- **Every upgrade is answered once.** A request has been read from a stream that takes an answer. Then it gets the
    response that ends the handshake, or one refusal, and the connection begins with what was behind its head. -/
theorem upgrade_answers {head : Bytes} {peer : Net.Endpoint} (hhead : EndsAtBlankLine head)
    (hincoming : wire.incoming = head ++ rest) (hread : read peer wire = .ok inbound)
    (htakes : wire.Takes answerLimit) : Answers wire rest inbound.request (inbound.upgrade config id) := by
  obtain ⟨hwire, -⟩ := read_ok hhead hincoming hread
  have htakes' : inbound.wire.Takes answerLimit := by
    rw [hwire]
    exact ⟨⟨htakes.healthy.ending, htakes.healthy.shut⟩, htakes.room⟩
  rcases admitted_or_fails inbound.request with ⟨hget, accept, hjudge⟩ | ⟨refusal, hfails⟩
  · obtain ⟨room, hupgrade⟩ := upgrade_admitted config id htakes' hget hjudge
    rw [hupgrade, hwire]
    constructor
    case connects => exact ⟨fun _ => ⟨hget, accept, hjudge⟩, fun _ => ⟨_, rfl⟩⟩
    case connected =>
      intro connection hconnection
      cases hconnection
      exact switches_of_judge config id htakes.healthy hjudge room _ _
    case refused => exact fun _ _ hrefused => nomatch hrefused
  · obtain ⟨room, hupgrade⟩ := upgrade_failed config id htakes' hfails
    rw [hupgrade, hwire]
    constructor
    case connects => exact ⟨fun ⟨_, hconnected⟩ => (nomatch hconnected), fun h => absurd h hfails.not_admitted⟩
    case connected => exact fun _ hconnected => nomatch hconnected
    case refused =>
      intro cause after hrefused
      cases hrefused
      exact refuses_of_fails hfails room

end upgrade

/-- The header lines of a request for an upgrade. -/
def sampleLines : List (Bytes × Bytes) :=
  [Http.line "Connection" "keep-alive, Upgrade", Http.line "Upgrade" "websocket",
    Http.line "Sec-WebSocket-Version" "13", Http.line "Sec-WebSocket-Key" "dGhlIHNhbXBsZSBub25jZQ=="]

/-- The head of a request for an upgrade. -/
def sampleHead : Bytes := Request.render .get [47] sampleLines

/-- A frame behind it. -/
def sampleFrame : Bytes := (Frame.mk true 0 .text (some ⟨1, 2, 3, 4⟩) [104, 105]).encode

/-- The stream on which both come. -/
def sampleWire : Wire := { Wire.fresh with incoming := sampleHead ++ sampleFrame }

/-- A request comes together with a frame, and gets a connection that begins with the frame. -/
theorem upgrade_answers_of_sample : ∃ inbound connection,
    read ⟨⟨127, 0, 0, 1⟩, 4000⟩ sampleWire = .ok inbound ∧
      inbound.upgrade .default (.random 0) = .connected connection ∧
      Answers sampleWire sampleFrame inbound.request (inbound.upgrade .default (.random 0)) := by
  have hlines : ∀ line ∈ sampleLines, Http.Head.IsLine line := by decide
  have htarget : Request.IsTarget [47] := ⟨by decide, List.all_eq_true.1 rfl, rfl⟩
  have hhead : EndsAtBlankLine sampleHead := Request.endsAtBlankLine_render htarget.bytes hlines
  have htakes : sampleWire.Takes answerLimit := ⟨⟨.inl rfl, rfl⟩, nofun⟩
  have hparts : ∃ request accept, Request.ofParts ⟨Http.Method.get.bytes, [47], sampleLines.map Http.Head.trimmed⟩
      = .ok request ∧ request.method = .get ∧ judge request.fields = .ok accept := ⟨_, _, rfl, rfl, rfl⟩
  obtain ⟨request, accept, hparts, hget, hjudge⟩ := hparts
  have hparse : Request.parse sampleHead = .ok (request, []) := by
    have := Request.parse_render htarget hlines (by decide) hparts []
    rwa [List.append_nil] at this
  have hread : read ⟨⟨127, 0, 0, 1⟩, 4000⟩ sampleWire = .ok ⟨request, _, sampleWire.take sampleFrame⟩ :=
    read_of_parse hhead (by decide +kernel) rfl hparse
  have answers := upgrade_answers .default (.random 0) hhead rfl hread htakes
  obtain ⟨connection, hconnection⟩ := answers.connects.2 ⟨hget, accept, hjudge⟩
  exact ⟨_, connection, hread, hconnection, answers⟩

end TextSocket.Inbound
