import TextSocket.Proofs.Http.Extent
import TextSocket.Proofs.Inbound.Head

/-!
# `Proofs.Inbound.Extent` — what reading a request takes from the stream

Two parts of reading decide where the head of a request ends. The stream is read up to the first `CR LF CR LF`; the head
itself is over with two ends of lines, and each of them may do without its carriage return. The head is what the bytes
that were taken begin with, and **what was taken behind it is lost** (`read_consumes`): neither the request nor the
connection gets it. Nothing is lost if the head ends as the stream was searched for, and so nothing is lost of a request
whose lines end as they should; otherwise everything up to the next `CR LF CR LF` is (`frame_swallowed`).

## Contents

* `Consumes` — the head, what is lost behind it, and what is left;
* `EndsStrictly`, `EndsStrictly.blankLine` — the ends of lines of a head;
* `read_consumes` — what reading a request takes.
-/

namespace TextSocket.Inbound

open Http.Head (blankLine EndsAtBlankLine EndsLoosely IsLineEnd)
open Net (Wire)

/-- **What reading a request takes from a stream**: a head, and what is lost behind it. -/
structure Consumes (wire : Wire) (inbound : Inbound) (head lost rest : Bytes) : Prop where
  /-- The stream had the head, what is lost, and what is left. -/
  incoming : wire.incoming = head ++ lost ++ rest
  /-- The request has been recognised in the head, and would have been whatever had stood behind. -/
  recognised : ∀ more, Http.Request.parse (head ++ more) = .ok (inbound.request, more)
  /-- The connection will have what is left. -/
  left : inbound.wire = wire.take rest
  /-- What has been taken is over with its first blank line. -/
  taken : EndsAtBlankLine (head ++ lost)

/-- Every line feed stands behind a carriage return. -/
def EndsStrictly (head : Bytes) : Prop := ∀ front back : Bytes, head = front ++ 10 :: back → [13] <:+ front

/-- Two ends of lines are a blank line if every line feed stands behind a carriage return. -/
theorem EndsStrictly.blankLine_suffix {head : Bytes} (h : EndsStrictly head) (hends : EndsLoosely head) :
    blankLine <:+ head := by
  obtain ⟨first, second, hfirst, hsecond, front, rfl⟩ := hends
  have hlast : ∃ before, first = before ++ [10] := hfirst.elim (fun h => ⟨[], h⟩) fun h => ⟨[13], h⟩
  rcases hsecond with rfl | rfl
  · -- the last line feed stands behind a line feed
    obtain ⟨before, rfl⟩ := hlast
    obtain ⟨more, hmore⟩ := h (front ++ (before ++ [10])) [] (by simp)
    rw [← List.append_assoc] at hmore
    cases (List.append_inj' hmore rfl).2
  · rcases hfirst with rfl | rfl
    · obtain ⟨before, rfl⟩ := h front [13, 10] (by simp)
      exact ⟨before, by simp [blankLine]⟩
    · exact List.suffix_append front blankLine

/-- Nothing is lost exactly if the head ends as the stream was searched for. -/
theorem Consumes.lost_eq_nil_iff {wire : Wire} {inbound : Inbound} {head lost rest : Bytes}
    (h : Consumes wire inbound head lost rest) : lost = [] ↔ blankLine <:+ head := by
  constructor
  · rintro rfl
    have hends := h.taken.ends
    rwa [List.append_nil] at hends
  · rintro ⟨front, rfl⟩
    exact h.taken.first front lost rfl

/-- **Reading a request takes its head**, and what stands up to the next blank line if the head does not end in one. -/
theorem read_consumes {wire : Wire} {peer : Net.Endpoint} {inbound : Inbound} (h : read peer wire = .ok inbound) :
    ∃ head lost rest, Consumes wire inbound head lost rest ∧ EndsLoosely head ∧
      (lost = [] ↔ blankLine <:+ head) ∧ (EndsStrictly head → lost = []) := by
  unfold read at h
  split at h
  · next taken rest htaken =>
    obtain ⟨hincoming, hends⟩ := readHead_complete htaken
    split at h
    · next request lost hparse =>
      cases h
      obtain ⟨head, hloose, rfl, hrecognised⟩ := Http.Request.parse_extent hparse
      have hconsumes : Consumes wire ⟨request, peer, wire.take rest⟩ head lost rest :=
        ⟨hincoming, hrecognised, rfl, hends⟩
      refine ⟨head, lost, rest, hconsumes, hloose, hconsumes.lost_eq_nil_iff, fun hstrict => ?_⟩
      exact hconsumes.lost_eq_nil_iff.2 (hstrict.blankLine_suffix hloose)
    · cases h
  · cases h
  · split at h <;> cases h

/-- A stream with a request and a frame, on which every line ends as it should. -/
def strictWire : Wire := { Wire.fresh with incoming := Bytes.ofText "GET / HTTP/1.1\r\nHost: a\r\n\r\n" ++ [129, 0] }

/-- A frame behind a request is left for the connection. -/
theorem read_consumes_of_strict : ∃ inbound, read ⟨⟨127, 0, 0, 1⟩, 4000⟩ strictWire = .ok inbound ∧
    ∃ head lost rest, Consumes strictWire inbound head lost rest ∧ EndsLoosely head ∧
      (lost = [] ↔ blankLine <:+ head) ∧ (EndsStrictly head → lost = []) := by
  have hread : ∃ inbound, read ⟨⟨127, 0, 0, 1⟩, 4000⟩ strictWire = .ok inbound := ⟨_, rfl⟩
  obtain ⟨inbound, hread⟩ := hread
  exact ⟨inbound, hread, read_consumes hread⟩

/-- The header lines of a request for an upgrade. -/
def bareLines : List (Bytes × Bytes) :=
  [Http.line "Host" "localhost", Http.line "Connection" "Upgrade", Http.line "Upgrade" "websocket",
    Http.line "Sec-WebSocket-Version" "13", Http.line "Sec-WebSocket-Key" "dGhlIHNhbXBsZSBub25jZQ=="]

/-- Such a request, with lines that end in a line feed alone. -/
def bareHead : Bytes :=
  Bytes.ofText "GET / HTTP/1.1\n" ++ bareLines.flatMap (fun (name, value) => name ++ 58 :: 32 :: value ++ [10]) ++ [10]

/-- A frame whose text is a blank line. -/
def blankFrame : Bytes := (Frame.mk true 0 .text (some ⟨0, 0, 0, 0⟩) blankLine).encode

/-- The stream on which both come. -/
def bareWire : Wire := { Wire.fresh with incoming := bareHead ++ blankFrame }

/-- The frame behind such a request is lost. The request is recognised in front of it and asks for the upgrade as it
    should, but the frame has been taken with the head, and nothing is left for the connection. -/
theorem frame_swallowed : ∃ request accept, Http.Request.parse bareWire.incoming = .ok (request, blankFrame) ∧
    Upgrade.judge request.fields = .ok accept ∧ blankFrame ≠ [] ∧
    read ⟨⟨127, 0, 0, 1⟩, 4000⟩ bareWire = .ok ⟨request, ⟨⟨127, 0, 0, 1⟩, 4000⟩, bareWire.take []⟩ := by
  have hsplit : Http.Request.split bareWire.incoming = .found ⟨Http.Method.get.bytes, [47], bareLines⟩ blankFrame := by
    decide +kernel
  have hparts : ∃ request accept, Http.Request.ofParts ⟨Http.Method.get.bytes, [47], bareLines⟩ = .ok request ∧
      Upgrade.judge request.fields = .ok accept := ⟨_, _, rfl, rfl⟩
  have htaken : readHead bareWire.incoming = .complete bareWire.incoming [] := by decide +kernel
  obtain ⟨request, accept, hparts, hjudge⟩ := hparts
  have hparse : Http.Request.parse bareWire.incoming = .ok (request, blankFrame) := by
    simp only [Http.Request.parse, hsplit, hparts]
  refine ⟨request, accept, hparse, hjudge, by decide, ?_⟩
  rw [read, htaken]
  simp only [hparse]

end TextSocket.Inbound
