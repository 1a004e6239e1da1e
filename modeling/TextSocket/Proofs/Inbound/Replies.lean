import TextSocket.Inbound
import TextSocket.Proofs.Http.Response
import TextSocket.Proofs.Net.Wire

/-!
# `Proofs.Inbound.Replies` — answers that follow each other

A text of any length may be the body of an answer, so an answer need not fit into the room that the peer has made. It is
then put on the stream in portions, while the peer makes room or does something else (`putWhile`). What goes out in the
end is the answer, in one piece and once, however it was cut (`putWhile_outgoing`), and a peer that makes room for it gets
it (`putWhile_done`). So **what the peer has received of several answers is read as these answers**, whatever their bodies
hold (`respondAll_reads`).

## Contents

* `putWhile` — putting bytes on a stream while the peer acts;
* `put_cases`, `putWhile_outgoing`, `putWhile_done` — what has gone out, and when everything has;
* `Reply`, `Reply.IsTaken`, `respondAll` — several answers;
* `respondAll_outgoing`, `respondAll_done`, `respondAll_reads` — what the peer receives of them.
-/

namespace TextSocket.Inbound

open Net (Attempt Wire PeerAct)
open Http (Status Response)

/-! ## Portions -/

/-- Goes on putting bytes on the stream while the peer acts: with what has not gone out yet, behind each of its acts. -/
def putWhile (inbound : Inbound) (bytes : Bytes) : List PeerAct → Attempt Error Unit × Inbound
  | [] => inbound.put bytes
  | act :: acts =>
    match inbound.put bytes with
    | (.blocked, next) =>
      putWhile { next with wire := act.apply next.wire }
        (bytes.drop (next.wire.outgoing.length - inbound.wire.outgoing.length)) acts
    | done => done

/-- What one attempt comes to. -/
theorem put_cases (inbound : Inbound) (bytes : Bytes) :
    (∃ wire, inbound.put bytes = (.ok (), { inbound with wire }) ∧ inbound.wire.Sent bytes wire) ∨
      (∃ sent left wire, bytes = sent ++ left ∧ left ≠ [] ∧ wire.room = some 0 ∧ inbound.wire.Sent sent wire ∧
        inbound.put bytes = (.blocked, { inbound with wire })) ∨
      ∃ cause wire, inbound.put bytes = (.error cause, { inbound with wire }) ∧ ¬ inbound.wire.Healthy := by
  unfold put
  rcases inbound.wire.write_portion bytes with ⟨wire, hwrite, hsent⟩ |
    ⟨sent, left, wire, rfl, hleft, hroom, hsent, hwrite⟩ | ⟨cause, wire, hwrite, hbroken⟩
  · left
    exact ⟨wire, by simp [hwrite], hsent⟩
  · right; left
    refine ⟨sent, left, wire, rfl, hleft, hroom, hsent, ?_⟩
    rcases hwrite with hwrite | hwrite
    · simp [hwrite, hleft]
    · simp [hwrite]
  · right; right
    exact ⟨.io cause, wire, by simp [hwrite], hbroken⟩

section portions

variable {inbound next : Inbound} {bytes : Bytes} {acts : List PeerAct}

/-- An attempt that is blocked is followed by one with what is left. -/
theorem putWhile_blocked {sent left : Bytes} {wire : Wire} (hsent : inbound.wire.Sent sent wire)
    (hput : inbound.put (sent ++ left) = (.blocked, { inbound with wire })) (act : PeerAct) (acts : List PeerAct) :
    inbound.putWhile (sent ++ left) (act :: acts)
      = ({ inbound with wire := act.apply wire } : Inbound).putWhile left acts := by
  have hdrop : (sent ++ left).drop (wire.outgoing.length - inbound.wire.outgoing.length) = left := by
    simp [hsent.outgoing]
  rw [putWhile, hput]
  simp only [hdrop]

/-- An attempt that is not blocked is the last one. -/
theorem putWhile_last (h : (inbound.put bytes).1 ≠ .blocked) (acts : List PeerAct) :
    inbound.putWhile bytes acts = inbound.put bytes := by
  cases acts with
  | nil => rfl
  | cons act acts =>
    rw [putWhile]
    split
    · next hput => exact absurd (congrArg Prod.fst hput) h
    · rfl

/-- **What has gone out in portions is what was to go out**, once and in one piece. -/
theorem putWhile_outgoing (h : inbound.putWhile bytes acts = (.ok (), next)) :
    next.wire.outgoing = inbound.wire.outgoing ++ bytes := by
  -- the induction is on what the peer does; what went out before an act is not sent again behind it
  induction acts generalizing inbound bytes with
  | nil =>
    rcases inbound.put_cases bytes with ⟨wire, hput, hsent⟩ | ⟨sent, left, wire, rfl, -, -, hsent, hput⟩ |
      ⟨cause, wire, hput, -⟩
    · rw [putWhile, hput] at h
      cases h
      exact hsent.outgoing
    · rw [putWhile, hput] at h
      cases h
    · rw [putWhile, hput] at h
      cases h
  | cons act acts ih =>
    rcases inbound.put_cases bytes with ⟨wire, hput, hsent⟩ | ⟨sent, left, wire, rfl, -, -, hsent, hput⟩ |
      ⟨cause, wire, hput, -⟩
    · rw [putWhile_last (by simp [hput]), hput] at h
      cases h
      exact hsent.outgoing
    · rw [putWhile_blocked hsent hput] at h
      rw [ih h, (act.affects wire).outgoing_eq, hsent.outgoing, List.append_assoc]
    · rw [putWhile_last (by simp [hput]), hput] at h
      cases h

/-- How many bytes a peer makes room for in all. -/
def granted : List PeerAct → Nat
  | [] => 0
  | act :: acts => act.grant + granted acts

/-- **What a peer makes room for goes out.** -/
theorem putWhile_done (hhealthy : inbound.wire.Healthy) (hreset : .reset ∉ acts)
    (hroom : ∀ room ∈ inbound.wire.room, bytes.length ≤ room + granted acts) :
    ∃ next, inbound.putWhile bytes acts = (.ok (), next) ∧ next.wire.Healthy := by
  induction acts generalizing inbound bytes with
  | nil =>
    rcases inbound.put_cases bytes with ⟨wire, hput, hsent⟩ | ⟨sent, left, wire, rfl, hleft, hnone, hsent, -⟩ |
      ⟨cause, wire, -, hbroken⟩
    · exact ⟨_, hput, hsent.healthy hhealthy⟩
    · -- there is room for everything, so nothing is left
      have henough := hroom _ (hsent.room 0 hnone)
      have hlength := List.length_pos_iff.mpr hleft
      simp only [List.length_append, granted] at henough
      omega
    · exact absurd hhealthy hbroken
  | cons act acts ih =>
    have hacts := List.not_mem_of_not_mem_cons hreset
    have hact : act ≠ .reset := by
      rintro rfl
      exact hreset List.mem_cons_self
    rcases inbound.put_cases bytes with ⟨wire, hput, hsent⟩ | ⟨sent, left, wire, rfl, -, hnone, hsent, hput⟩ |
      ⟨cause, wire, -, hbroken⟩
    · refine ⟨{ inbound with wire }, ?_, hsent.healthy hhealthy⟩
      rw [putWhile_last (by simp [hput]), hput]
    · rw [putWhile_blocked hsent hput]
      apply ih ((act.affects wire).healthy hact (hsent.healthy hhealthy)) hacts
      intro room hgrant
      have henough := hroom _ (hsent.room 0 hnone)
      rw [(act.affects wire).room_eq, hnone] at hgrant
      obtain rfl : act.grant = room := by simpa using hgrant
      simp only [List.length_append, granted] at henough ⊢
      omega
    · exact absurd hhealthy hbroken

end portions

/-! ## Several answers -/

/-- An answer, and what the peer does while it is written. -/
structure Reply where
  /-- The status. -/
  status : Status
  /-- The body. -/
  body : Bytes
  /-- What the peer does. -/
  acts : List PeerAct

namespace Reply

/-- The bytes of an answer. -/
def bytes (reply : Reply) : Bytes := Http.refusal reply.status reply.body

/-- The peer takes an answer: it does not reset the stream, and makes room for as many bytes as the answer has. -/
structure IsTaken (reply : Reply) : Prop where
  /-- The stream is not reset. -/
  kept : .reset ∉ reply.acts
  /-- There is room. -/
  room : reply.bytes.length ≤ granted reply.acts

instance (reply : Reply) : Decidable reply.IsTaken :=
  decidable_of_iff (.reset ∉ reply.acts ∧ reply.bytes.length ≤ granted reply.acts)
    ⟨fun h => ⟨h.1, h.2⟩, fun h => ⟨h.kept, h.room⟩⟩

end Reply

/-- Answers with a text while the peer acts. -/
def respondWhile (inbound : Inbound) (reply : Reply) : Attempt Error Unit × Inbound :=
  inbound.putWhile reply.bytes reply.acts

/-- Gives answers in turn, each when the one before has gone out. -/
def respondAll (inbound : Inbound) : List Reply → Attempt Error Unit × Inbound
  | [] => (.ok (), inbound)
  | reply :: replies =>
    match inbound.respondWhile reply with
    | (.ok (), next) => next.respondAll replies
    | failed => failed

section replies

variable {inbound next : Inbound} {replies : List Reply}

/-- What has gone out are the answers, one behind the other. -/
theorem respondAll_outgoing (h : inbound.respondAll replies = (.ok (), next)) :
    next.wire.outgoing = inbound.wire.outgoing ++ replies.flatMap Reply.bytes := by
  induction replies generalizing inbound with
  | nil =>
    rw [respondAll] at h
    cases h
    simp
  | cons reply replies ih =>
    rw [respondAll] at h
    split at h
    · next between hfirst =>
      rw [ih h, putWhile_outgoing hfirst, List.flatMap_cons, List.append_assoc]
    · next hfailed =>
      exact absurd h (hfailed next)

/-- Answers that the peer takes go out. -/
theorem respondAll_done (hhealthy : inbound.wire.Healthy) (htaken : ∀ reply ∈ replies, reply.IsTaken) :
    ∃ next, inbound.respondAll replies = (.ok (), next) := by
  induction replies generalizing inbound with
  | nil => exact ⟨inbound, rfl⟩
  | cons reply replies ih =>
    obtain ⟨hfirst, hrest⟩ := List.forall_mem_cons.mp htaken
    obtain ⟨between, hput, hbetween⟩ : ∃ between, inbound.respondWhile reply = (.ok (), between) ∧
        between.wire.Healthy := by
      apply putWhile_done hhealthy hfirst.kept
      intro room _
      exact Nat.le_trans hfirst.room (Nat.le_add_left _ _)
    obtain ⟨next, hnext⟩ := ih hbetween hrest
    refine ⟨next, ?_⟩
    rw [respondAll, hput]
    exact hnext

/-- **Answers are told apart.** They have been given in turn, on a stream that may have carried something before. Then
    what the peer has received of them is read as these answers, with nothing left over, and the peer has received them if
    it has taken them. Without acts of the peer, an answer is given as it is given by a single attempt. -/
theorem respondAll_reads (inbound : Inbound) (replies : List Reply) :
    (∀ next, inbound.respondAll replies = (.ok (), next) → ∃ received,
      next.wire.outgoing = inbound.wire.outgoing ++ received ∧
      Response.readAll? received = some (replies.map fun reply => (reply.status, reply.body))) ∧
    (inbound.wire.Healthy → (∀ reply ∈ replies, reply.IsTaken) → ∃ next, inbound.respondAll replies = (.ok (), next)) ∧
    ∀ status body, inbound.respondWhile ⟨status, body, []⟩ = inbound.respond status body := by
  refine ⟨?_, ?_, ?_⟩
  · intro next hnext
    refine ⟨_, respondAll_outgoing hnext, ?_⟩
    have hread := Http.readAll?_flatMap (replies.map fun reply => (reply.status, reply.body))
    rw [List.flatMap_map] at hread
    exact hread
  · intro hhealthy htaken
    exact respondAll_done hhealthy htaken
  · intro status body
    rfl

end replies

/-- A request on a stream that has carried an interim response and takes ten more bytes. -/
def sampleBusy : Inbound where
  request := ⟨.get, ⟨none, none, [47], none⟩, .empty⟩
  peer := ⟨⟨127, 0, 0, 1⟩, 4000⟩
  wire := { Wire.fresh with outgoing := Bytes.ofText "HTTP/1.1 100 Continue\r\n\r\n", room := some 10 }

/-- Two answers. The body of the first one looks like an answer and is not all ASCII; the second one has no phrase and no
    body. The peer makes room for the first one in two portions and ends its own stream in between. -/
def sampleReplies : List Reply :=
  [⟨.serviceUnavailable, Bytes.ofText "\r\n\r\nHTTP/1.1 200 OK\r\nContent-Length: 0\r\n\r\n–\r\n",
      [.widen 100, .finish, .widen 200]⟩,
    ⟨⟨599, by decide⟩, [], [.widen 150]⟩]

/-- They are told apart. -/
theorem respondAll_reads_of_portions : ∃ next received, sampleBusy.respondAll sampleReplies = (.ok (), next) ∧
    next.wire.outgoing = sampleBusy.wire.outgoing ++ received ∧
    Response.readAll? received = some (sampleReplies.map fun reply => (reply.status, reply.body)) := by
  have healthy : sampleBusy.wire.Healthy := ⟨.inl rfl, rfl⟩
  have taken : ∀ reply ∈ sampleReplies, reply.IsTaken := by decide +kernel
  obtain ⟨reads, gives, -⟩ := respondAll_reads sampleBusy sampleReplies
  obtain ⟨next, hnext⟩ := gives healthy taken
  obtain ⟨received, hreceived, hread⟩ := reads next hnext
  exact ⟨next, received, hnext, hreceived, hread⟩

end TextSocket.Inbound
