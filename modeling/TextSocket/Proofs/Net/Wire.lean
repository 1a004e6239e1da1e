import TextSocket.Net.Wire

/-!
# `Proofs.Net.Wire` — what becomes of a stream

Two parties act on a stream. This end puts bytes on it. **A healthy stream takes them from the front**, as many as there
is room for (`write_portion`), and a stream that is not healthy takes nothing any more (`Stuck`). The peer sends bytes,
ends or resets its own stream, or makes room (`PeerAct`). What it does goes by few rules (`Affects`), and everything
else about it follows from these: it takes nothing back, it releases nothing for this end, and it mends no stream.

## Contents

* `Ending.isCut`, `Ending.Notes` — whether a stream is cut off, and who notices;
* `Wire.Healthy`, `Wire.Stuck` — whether a stream still takes bytes;
* `write_of_healthy`, `write_of_sick`, `write_cases` — what a single attempt to write does;
* `Wire.Takes`, `write_takes` — a stream that takes what is put on it;
* `Wire.Sent`, `write_room`, `write_portion` — what has gone out, and what is left;
* `PeerAct`, `Affects`, `PeerAct.affects` — what the peer does;
* `Affects.incoming_eq`, `Affects.healthy`, `Affects.stuck` — what it changes, and what it cannot change.
-/

namespace TextSocket.Net

/-! ## The end of a stream -/

namespace Ending

/-- Whether the peer has reset the stream. -/
def isCut : Ending → Bool
  | .reset | .dead => true
  | .open | .ended => false

/-- What becomes of the end of a stream by what this end does: nothing, or a reset is noticed. -/
def Notes (ending ending' : Ending) : Prop :=
  ending' = ending ∨ ending = .reset ∧ ending' = .dead

theorem Notes.refl (ending : Ending) : ending.Notes ending := Or.inl rfl

theorem Notes.trans {ending ending' ending'' : Ending} (h : ending.Notes ending') (k : ending'.Notes ending'') :
    ending.Notes ending'' := by
  rcases h with rfl | ⟨rfl, rfl⟩
  · exact k
  · rcases k with rfl | ⟨hreset, _⟩
    · exact Or.inr ⟨rfl, rfl⟩
    · cases hreset

/-- A dead stream stays dead. -/
theorem Notes.dead {ending ending' : Ending} (h : ending.Notes ending') (hdead : ending = .dead) :
    ending' = .dead := by
  rcases h with rfl | ⟨rfl, _⟩
  · exact hdead
  · cases hdead

/-- This end resets nothing. -/
theorem Notes.isCut_eq {ending ending' : Ending} (h : ending.Notes ending') : ending'.isCut = ending.isCut := by
  rcases h with rfl | ⟨rfl, rfl⟩
  · rfl
  · rfl

end Ending

namespace Wire

/-! ## Streams that take bytes -/

/-- Whether the peer still takes bytes, as far as anybody can know. -/
structure Healthy (wire : Wire) : Prop where
  /-- The peer has not reset the stream. -/
  ending : wire.ending = .open ∨ wire.ending = .ended
  /-- This end has not given up writing. -/
  shut : wire.shut = false

/-- A stream that is cut off is not healthy. -/
theorem Healthy.isCut_eq {wire : Wire} (h : wire.Healthy) : wire.ending.isCut = false := by
  rcases h.ending with hending | hending
  · rw [hending]
    rfl
  · rw [hending]
    rfl

/-- **A stream that is not healthy takes nothing any more**, and does not recover. -/
def Stuck (wire wire' : Wire) : Prop :=
  ¬ wire.Healthy → ¬ wire'.Healthy ∧ wire'.outgoing = wire.outgoing

theorem Stuck.refl (wire : Wire) : Stuck wire wire := fun h => ⟨h, rfl⟩

theorem Stuck.trans {wire wire' wire'' : Wire} (h : Stuck wire wire') (k : Stuck wire' wire'') : Stuck wire wire'' :=
  fun hsick => ⟨(k (h hsick).1).1, (k (h hsick).1).2.trans (h hsick).2⟩

/-- At most a reset is noticed. -/
theorem stuck_of_notes {wire wire' : Wire} (hending : wire.ending.Notes wire'.ending) (hshut : wire'.shut = wire.shut)
    (houtgoing : wire'.outgoing = wire.outgoing) : Stuck wire wire' := by
  refine fun hsick => ⟨fun hhealthy => ?_, houtgoing⟩
  rcases hending with hsame | ⟨_, hdead⟩
  · exact hsick ⟨hsame ▸ hhealthy.ending, hshut ▸ hhealthy.shut⟩
  · exact absurd hhealthy.ending (by simp [hdead])

/-! ## One attempt to write -/

/-- A healthy stream takes as many bytes as there is room for. -/
theorem write_of_healthy {wire : Wire} (h : wire.Healthy) (bytes : Bytes) :
    wire.write bytes = match wire.room with
      | none => (.ok bytes.length, { wire with outgoing := wire.outgoing ++ bytes })
      | some room =>
        if bytes.isEmpty then (.ok 0, wire)
        else if room = 0 then (.blocked, wire)
        else (.ok (min room bytes.length), { wire with
          outgoing := wire.outgoing ++ bytes.take (min room bytes.length)
          room := some (room - min room bytes.length) }) := by
  have hopen : ¬ wire.shut = true := by simp [h.shut]
  unfold write
  rcases h.ending with hending | hending
  · rw [hending]
    exact if_neg hopen
  · rw [hending]
    exact if_neg hopen

/-- A stream that is not healthy fails, and a reset is reported once. -/
theorem write_of_sick {wire : Wire} (h : ¬ wire.Healthy) (bytes : Bytes) :
    wire.write bytes = (.error .brokenPipe, wire) ∨
      wire.ending = .reset ∧ wire.write bytes = (.error .connectionReset, { wire with ending := .dead }) := by
  have hshut (hending : wire.ending = .open ∨ wire.ending = .ended) : wire.shut = true := by
    cases hshut : wire.shut with
    | true => rfl
    | false => exact absurd ⟨hending, hshut⟩ h
  unfold write
  cases hending : wire.ending with
  | reset => exact Or.inr ⟨rfl, rfl⟩
  | dead => exact Or.inl rfl
  | «open» => exact Or.inl (if_pos (hshut (Or.inl hending)))
  | ended => exact Or.inl (if_pos (hshut (Or.inr hending)))

/-- What putting bytes on a stream comes to: a healthy stream takes a part of them from the front, it has to wait, or it
    fails. A healthy stream does not fail. -/
theorem write_cases (wire : Wire) (bytes : Bytes) :
    (∃ n room, wire.Healthy ∧ wire.write bytes =
        (.ok n, { wire with outgoing := wire.outgoing ++ bytes.take n, room })) ∨
      wire.write bytes = (.blocked, wire) ∨
      ¬ wire.Healthy ∧ (wire.write bytes = (.error .brokenPipe, wire) ∨
        wire.ending = .reset ∧ wire.write bytes = (.error .connectionReset, { wire with ending := .dead })) := by
  by_cases h : wire.Healthy
  · rw [write_of_healthy h]
    split
    · exact Or.inl ⟨bytes.length, wire.room, h, by simp⟩
    · split
      · exact Or.inl ⟨0, wire.room, h, by simp⟩
      · split
        · exact Or.inr (Or.inl rfl)
        · exact Or.inl ⟨_, _, h, rfl⟩
  · exact Or.inr (Or.inr ⟨h, write_of_sick h bytes⟩)

/-- A healthy stream that takes that many bytes at once. -/
structure Takes (wire : Wire) (n : Nat) : Prop where
  /-- The peer takes bytes. -/
  healthy : wire.Healthy
  /-- There is room for them. -/
  room : ∀ room ∈ wire.room, n ≤ room

/-- What is put on a stream that takes it is on the stream. -/
theorem write_takes {wire : Wire} {bytes : Bytes} {n : Nat} (h : wire.Takes n) (hfits : bytes.length ≤ n) :
    ∃ room, wire.write bytes = (.ok bytes.length, { wire with outgoing := wire.outgoing ++ bytes, room }) := by
  have hwrite := write_of_healthy h.healthy bytes
  cases hroom : wire.room with
  | none =>
    rw [hroom] at hwrite
    exact ⟨none, hwrite⟩
  | some room =>
    rw [hroom] at hwrite
    have henough : bytes.length ≤ room := Nat.le_trans hfits (h.room room hroom)
    by_cases hempty : bytes = []
    · subst hempty
      refine ⟨wire.room, hwrite.trans ?_⟩
      rw [List.append_nil]
      rfl
    · have hsome : room ≠ 0 := by
        rintro rfl
        exact hempty (List.length_eq_zero_iff.mp (Nat.le_zero.mp henough))
      dsimp only at hwrite
      rw [if_neg (by simpa using hempty), if_neg hsome, Nat.min_eq_right henough, List.take_length] at hwrite
      exact ⟨_, hwrite⟩

/-! ## Portions -/

/-- **Bytes have gone out**, as many as there was room for. -/
structure Sent (wire : Wire) (sent : Bytes) (wire' : Wire) : Prop where
  /-- They stand behind what had gone out before. -/
  outgoing : wire'.outgoing = wire.outgoing ++ sent
  /-- A healthy stream stays so. -/
  healthy : wire.Healthy → wire'.Healthy
  /-- They have used up room. -/
  room : ∀ room ∈ wire'.room, wire.room = some (room + sent.length)

theorem sent_nil (wire : Wire) : wire.Sent [] wire := ⟨by simp, id, by simp⟩

/-- Bytes for which there is room use it up. -/
theorem sent_part {wire : Wire} {room : Nat} (hroom : wire.room = some room) {part : Bytes}
    (hfits : part.length ≤ room) :
    wire.Sent part { wire with outgoing := wire.outgoing ++ part, room := some (room - part.length) } := by
  refine ⟨rfl, fun h => ⟨h.ending, h.shut⟩, ?_⟩
  intro left hleft
  obtain rfl : room - part.length = left := by simpa using hleft
  rw [hroom, Nat.sub_add_cancel hfits]

/-- A healthy stream with some room takes all bytes, or as many as there is room for. -/
theorem write_room {wire : Wire} (h : wire.Healthy) {room : Nat} (hroom : wire.room = some room) (bytes : Bytes) :
    (∃ wire', wire.write bytes = (.ok bytes.length, wire') ∧ wire.Sent bytes wire') ∨
      ∃ sent left wire', bytes = sent ++ left ∧ left ≠ [] ∧ wire'.room = some 0 ∧ wire.Sent sent wire' ∧
        (wire.write bytes = (.ok sent.length, wire') ∨ wire.write bytes = (.blocked, wire')) := by
  rw [write_of_healthy h, hroom]
  dsimp only
  by_cases hempty : bytes = []
  · subst hempty
    exact Or.inl ⟨wire, rfl, sent_nil wire⟩
  rw [if_neg (by simpa using hempty)]
  by_cases hzero : room = 0
  · rw [if_pos hzero]
    exact Or.inr ⟨[], bytes, wire, rfl, hempty, by rw [hroom, hzero], sent_nil wire, Or.inr rfl⟩
  rw [if_neg hzero]
  by_cases hfits : bytes.length ≤ room
  · rw [Nat.min_eq_right hfits, List.take_length]
    exact Or.inl ⟨_, rfl, sent_part hroom hfits⟩
  · have hpart : min room bytes.length = room := Nat.min_eq_left (by omega)
    have hlength : (bytes.take room).length = room := by rw [List.length_take, hpart]
    have hsent := sent_part hroom (Nat.le_of_eq hlength)
    rw [hlength, Nat.sub_self] at hsent
    rw [hpart, Nat.sub_self]
    refine Or.inr ⟨bytes.take room, bytes.drop room, _, (List.take_append_drop room bytes).symm, ?_, rfl, hsent,
      Or.inl (by rw [hlength])⟩
    intro hnil
    rw [List.drop_eq_nil_iff] at hnil
    omega

/-- **What putting bytes on a stream comes to**: all of them have gone out, or as many as there was room for, or the
    stream has failed. -/
theorem write_portion (wire : Wire) (bytes : Bytes) :
    (∃ wire', wire.write bytes = (.ok bytes.length, wire') ∧ wire.Sent bytes wire') ∨
      (∃ sent left wire', bytes = sent ++ left ∧ left ≠ [] ∧ wire'.room = some 0 ∧ wire.Sent sent wire' ∧
        (wire.write bytes = (.ok sent.length, wire') ∨ wire.write bytes = (.blocked, wire'))) ∨
      ∃ cause wire', wire.write bytes = (.error cause, wire') ∧ ¬ wire.Healthy := by
  by_cases h : wire.Healthy
  · cases hroom : wire.room with
    | none =>
      refine Or.inl ⟨{ wire with outgoing := wire.outgoing ++ bytes }, ?_, rfl, fun h => ⟨h.ending, h.shut⟩, ?_⟩
      · rw [write_of_healthy h, hroom]
      · intro room hsome
        rw [hroom] at hsome
        cases hsome
    | some room =>
      rcases write_room h hroom bytes with hall | hpart
      · exact Or.inl hall
      · exact Or.inr (Or.inl hpart)
  · rcases write_of_sick h bytes with hwrite | ⟨-, hwrite⟩
    · exact Or.inr (Or.inr ⟨_, _, hwrite, h⟩)
    · exact Or.inr (Or.inr ⟨_, _, hwrite, h⟩)

end Wire

/-! ## The peer -/

/-- Bytes arrive as long as the peer has not ended its stream. -/
theorem Wire.deliver_of_open {wire : Wire} (hopen : wire.ending = .open) (bytes : Bytes) :
    wire.deliver bytes = { wire with incoming := wire.incoming ++ bytes } := by
  unfold Wire.deliver
  rw [hopen]

/-- What a peer does to a stream. -/
inductive PeerAct where
  /-- It sends bytes. -/
  | deliver (bytes : Bytes)
  /-- It ends its stream. -/
  | finish
  /-- It resets the stream. -/
  | reset
  /-- It makes room for further bytes. -/
  | widen (n : Nat)
  deriving DecidableEq

namespace PeerAct

/-- The stream behind what the peer has done. -/
def apply : PeerAct → Wire → Wire
  | deliver bytes, wire => wire.deliver bytes
  | finish, wire => wire.finish
  | reset, wire => wire.reset
  | widen n, wire => wire.widen n

/-- The bytes that arrive by it; none arrive behind the end of the stream. -/
def arriving : PeerAct → Wire → Bytes
  | deliver bytes, wire => if wire.ending = .open then bytes else []
  | _, _ => []

/-- How many bytes the peer makes room for. -/
def grant : PeerAct → Nat
  | widen n => n
  | _ => 0

/-- Nothing arrives behind the end of a stream. -/
theorem arriving_of_over {wire : Wire} (hover : wire.ending ≠ .open) (act : PeerAct) : act.arriving wire = [] := by
  cases act with
  | deliver bytes => exact if_neg hover
  | finish | reset | widen _ => rfl

end PeerAct

/-- **What a peer does to a stream**, rule by rule. -/
inductive Affects (wire : Wire) : PeerAct → Wire → Prop where
  /-- Bytes arrive on an open stream. -/
  | arrived {bytes : Bytes} (hopen : wire.ending = .open) :
      Affects wire (.deliver bytes) { wire with incoming := wire.incoming ++ bytes }
  /-- Behind the end of a stream no bytes arrive. -/
  | lost {bytes : Bytes} (hover : wire.ending ≠ .open) : Affects wire (.deliver bytes) wire
  /-- An open stream comes to its end. -/
  | ended (hopen : wire.ending = .open) : Affects wire .finish { wire with ending := .ended }
  /-- It comes to its end once. -/
  | past (hover : wire.ending ≠ .open) : Affects wire .finish wire
  /-- A stream is cut off. -/
  | cut {ending : Ending} (hcut : ending.isCut = true) (hdead : wire.ending = .dead → ending = .dead) :
      Affects wire .reset { wire with ending }
  /-- There is more room. -/
  | widened {n : Nat} : Affects wire (.widen n) { wire with room := wire.room.map (· + n) }

/-- **Every act goes by the rules.** -/
theorem PeerAct.affects (act : PeerAct) (wire : Wire) : Affects wire act (act.apply wire) := by
  cases act with
  | deliver bytes =>
    show Affects wire _ (wire.deliver bytes)
    unfold Wire.deliver
    split
    · next hopen => exact .arrived hopen
    · next hover => exact .lost hover
  | finish =>
    show Affects wire _ wire.finish
    unfold Wire.finish
    split
    · next hopen => exact .ended hopen
    · next hover => exact .past hover
  | reset =>
    show Affects wire _ wire.reset
    unfold Wire.reset
    cases hending : wire.ending with
    | «open» => exact .cut rfl (by simp [hending])
    | ended => exact .cut rfl (by simp)
    | reset =>
      have hcut : wire.ending.isCut = true := by rw [hending]; rfl
      exact .cut hcut id
    | dead =>
      have hcut : wire.ending.isCut = true := by rw [hending]; rfl
      exact .cut hcut id
  | widen n => exact .widened

namespace Affects

variable {wire wire' : Wire} {act : PeerAct}

/-- The peer takes nothing back. -/
theorem outgoing_eq (h : Affects wire act wire') : wire'.outgoing = wire.outgoing := by
  cases h <;> rfl

/-- Only this end releases the stream. -/
theorem released_eq (h : Affects wire act wire') : wire'.released = wire.released := by
  cases h <;> rfl

/-- What has arrived stays, and bytes that arrive stand behind it. -/
theorem incoming_eq (h : Affects wire act wire') : wire'.incoming = wire.incoming ++ act.arriving wire := by
  cases h with
  | arrived hopen =>
    simp only [PeerAct.arriving]
    rw [if_pos hopen]
  | lost hover =>
    rw [PeerAct.arriving_of_over hover, List.append_nil]
  | ended _ | past _ | cut _ _ | widened => exact (List.append_nil _).symm

/-- The peer opens no stream. -/
theorem open_before (h : Affects wire act wire') (hopen : wire'.ending = .open) : wire.ending = .open := by
  cases h with
  | ended hopen' => exact hopen'
  | @cut ending hcut _ =>
    obtain rfl : ending = .open := hopen
    cases hcut
  | arrived _ | lost _ | past _ | widened => exact hopen

/-- A dead stream stays dead. -/
theorem dead (h : Affects wire act wire') (hdead : wire.ending = .dead) : wire'.ending = .dead := by
  cases h with
  | ended hopen =>
    rw [hdead] at hopen
    cases hopen
  | cut _ hstays => exact hstays hdead
  | arrived _ | lost _ | past _ | widened => exact hdead

/-- A stream that is cut off stays so. -/
theorem isCut (h : Affects wire act wire') (hbefore : wire.ending.isCut = true) : wire'.ending.isCut = true := by
  cases h with
  | ended hopen =>
    rw [hopen] at hbefore
    cases hbefore
  | cut hcut _ => exact hcut
  | arrived _ | lost _ | past _ | widened => exact hbefore

/-- A reset cuts a stream off. -/
theorem isCut_of_reset (h : Affects wire .reset wire') : wire'.ending.isCut = true := by
  cases h with
  | cut hcut _ => exact hcut

/-- Only a reset cuts a stream off. -/
theorem isCut_eq (h : Affects wire act wire') (hact : act ≠ .reset) : wire'.ending.isCut = wire.ending.isCut := by
  cases h with
  | ended hopen =>
    rw [hopen]
    rfl
  | cut _ _ => exact absurd rfl hact
  | arrived _ | lost _ | past _ | widened => rfl

/-- A peer that does not reset the stream leaves it healthy. -/
theorem healthy (h : Affects wire act wire') (hact : act ≠ .reset) (hhealthy : wire.Healthy) : wire'.Healthy := by
  cases h with
  | ended _ => exact ⟨Or.inr rfl, hhealthy.shut⟩
  | cut _ _ => exact absurd rfl hact
  | arrived _ | lost _ | past _ | widened => exact ⟨hhealthy.ending, hhealthy.shut⟩

/-- **A stream does not recover** by what the peer does. -/
theorem healthy_before (h : Affects wire act wire') (hhealthy : wire'.Healthy) : wire.Healthy := by
  cases h with
  | ended hopen => exact ⟨Or.inl hopen, hhealthy.shut⟩
  | cut hcut _ =>
    have hwhole := hhealthy.isCut_eq
    rw [show _ = true from hcut] at hwhole
    cases hwhole
  | arrived _ | lost _ | past _ | widened => exact ⟨hhealthy.ending, hhealthy.shut⟩

theorem stuck (h : Affects wire act wire') : wire.Stuck wire' := by
  intro hsick
  exact ⟨fun hhealthy => hsick (h.healthy_before hhealthy), h.outgoing_eq⟩

/-- What the peer does beside making room does not change the room. -/
theorem room_eq (h : Affects wire act wire') : wire'.room = wire.room.map (· + act.grant) := by
  cases h with
  | widened => rfl
  | arrived _ | lost _ | ended _ | past _ | cut _ _ =>
    show wire.room = wire.room.map (· + 0)
    simp

end Affects

end TextSocket.Net
