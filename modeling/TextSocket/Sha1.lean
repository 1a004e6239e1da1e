import TextSocket.Bytes

/-!
# `TextSocket.Sha1` — a digest of 20 bytes

The message is filled up to a multiple of 64 bytes: a byte 128, zeros, and the length of the message in bits.
Each block of 64 bytes stirs five words of 32 bits in 80 rounds, of which every 20 have a rule of their own.

## Contents

* `Sha1.digest` — the digest, with `length_digest`;
* `Sha1.padded`, `Sha1.compress` — filling up, and one block.
-/

namespace TextSocket.Sha1

/-- Five words. -/
structure State where
  /-- First word. -/
  a : UInt32
  /-- Second word. -/
  b : UInt32
  /-- Third word. -/
  c : UInt32
  /-- Fourth word. -/
  d : UInt32
  /-- Fifth word. -/
  e : UInt32
  deriving DecidableEq, Repr

/-- The words before the first block. -/
def initial : State := ⟨0x67452301, 0xefcdab89, 0x98badcfe, 0x10325476, 0xc3d2e1f0⟩

/-- Rotation of a word to the left. -/
def rotate (x : UInt32) (n : UInt32) : UInt32 := (x <<< n) ||| (x >>> (32 - n))

/-! ## One block -/

/-- The rule of a round: how three words are mixed, and the constant that is added. -/
def rule (round : Nat) (b c d : UInt32) : UInt32 × UInt32 :=
  if round < 20 then ((b &&& c) ||| ((~~~b) &&& d), 0x5a827999)
  else if round < 40 then (b ^^^ c ^^^ d, 0x6ed9eba1)
  else if round < 60 then ((b &&& c) ||| (b &&& d) ||| (c &&& d), 0x8f1bbcdc)
  else (b ^^^ c ^^^ d, 0xca62c1d6)

/-- One round with one word of the schedule. -/
def State.round (s : State) (round : Nat) (w : UInt32) : State :=
  let (f, k) := rule round s.b s.c s.d
  ⟨rotate s.a 5 + f + s.e + k + w, s.a, rotate s.b 30, s.c, s.d⟩

/-- The word that follows 16 words of the schedule. -/
def nextWord (window : List UInt32) : UInt32 :=
  let word (i : Nat) : UInt32 := (window[i]?).getD 0
  rotate (word 13 ^^^ word 8 ^^^ word 2 ^^^ word 0) 1

/-- The rounds from one on: `left` of them, with the words of the schedule in a window of 16. -/
def rounds : Nat → Nat → List UInt32 → State → State
  | 0, _, _, s => s
  | left + 1, round, window, s =>
    match window with
    | [] => s
    | w :: rest => rounds left (round + 1) (rest ++ [nextWord window]) (s.round round w)

/-- Bytes as words of 32 bits, the most significant byte first. -/
def words : Bytes → List UInt32
  | a :: b :: c :: d :: rest => UInt32.ofNat (Bytes.toNat [a, b, c, d]) :: words rest
  | _ => []

/-- Stirs the words with one block. -/
def compress (s : State) (block : Bytes) : State :=
  let t := rounds 80 0 (words block) s
  ⟨s.a + t.a, s.b + t.b, s.c + t.c, s.d + t.d, s.e + t.e⟩

/-! ## Whole messages -/

/-- The message, filled up to a multiple of 64 bytes. -/
def padded (message : Bytes) : Bytes :=
  message ++ [128] ++ List.replicate ((119 - message.length % 64) % 64) 0 ++
    Bytes.ofNat 8 (message.length * 8)

/-- Stirs the words with `count` blocks. -/
def blocks : Nat → Bytes → State → State
  | 0, _, s => s
  | count + 1, bytes, s => blocks count (bytes.drop 64) (compress s (bytes.take 64))

/-- The bytes of the words. -/
def State.bytes (s : State) : Bytes :=
  Bytes.ofNat 4 s.a.toNat ++ Bytes.ofNat 4 s.b.toNat ++ Bytes.ofNat 4 s.c.toNat ++
    Bytes.ofNat 4 s.d.toNat ++ Bytes.ofNat 4 s.e.toNat

/-- The digest of a message. -/
def digest (message : Bytes) : Bytes :=
  let filled := padded message
  (blocks (filled.length / 64) filled initial).bytes

theorem length_digest (message : Bytes) : (digest message).length = 20 := by
  simp [digest, State.bytes, Bytes.length_ofNat]

end TextSocket.Sha1
