/-!
# `TextSocket.Bytes` — byte strings

Everything that travels on the wire is a byte string. A byte string is a plain list of bytes, so that
splitting, joining and measuring it are the list operations and their lemmas; a text becomes one through its
UTF-8 form and comes back from it when the bytes are valid.

## Contents

* `Bytes` — byte strings;
* `Bytes.ofText`, `Bytes.text?` — UTF-8 in both directions, inverse to each other (`text?_eq_some_iff`);
* `Bytes.ofNat`, `Bytes.toNat` — unsigned numbers in network byte order (`toNat_ofNat`);
* `Bytes.latin1`, `Bytes.hex` — readable views.
-/

namespace TextSocket

/-- A byte string. -/
abbrev Bytes := List UInt8

namespace Bytes

/-! ## Text -/

/-- The UTF-8 form of a text. -/
def ofText (text : String) : Bytes :=
  text.toByteArray.data.toList

/-- The text whose UTF-8 form the bytes are, if they are valid UTF-8. -/
def text? (bytes : Bytes) : Option String :=
  String.fromUTF8? bytes.toByteArray

theorem ofText_ofList (cs : List Char) :
    ofText (String.ofList cs) = cs.flatMap String.utf8EncodeChar := by
  simp [ofText, List.utf8Encode]

theorem toByteArray_ofText (text : String) : (ofText text).toByteArray = text.toByteArray := by
  apply ByteArray.ext
  simp [ofText]

theorem text?_ofText (text : String) : text? (ofText text) = some text := by
  unfold text? String.fromUTF8?
  rw [toByteArray_ofText, dif_pos text.isValidUTF8]
  rfl

theorem ofText_of_text? {bytes : Bytes} {text : String} (h : text? bytes = some text) :
    ofText text = bytes := by
  unfold text? String.fromUTF8? at h
  split at h
  · injection h with h
    subst h
    simp [ofText, String.fromUTF8]
  · cases h

/-- Reading UTF-8 accepts exactly what writing it produces. -/
theorem text?_eq_some_iff {bytes : Bytes} {text : String} :
    text? bytes = some text ↔ bytes = ofText text :=
  ⟨fun h => (ofText_of_text? h).symm, fun h => h ▸ text?_ofText text⟩

/-- The text with one character per byte, U+0000 to U+00FF. -/
def latin1 (bytes : Bytes) : String :=
  String.ofList (bytes.map fun b => Char.ofNat b.toNat)

/-! ## Numbers in network byte order -/

/-- The `width` low bytes of a number, the most significant first. -/
def ofNat : Nat → Nat → Bytes
  | 0, _ => []
  | width + 1, n => UInt8.ofNat (n / Nat.pow 256 width) :: ofNat width n

/-- The number that the bytes write, the most significant first. -/
def toNat (bytes : Bytes) : Nat :=
  bytes.foldl (fun n b => n * 256 + b.toNat) 0

theorem length_ofNat (width n : Nat) : (ofNat width n).length = width := by
  induction width with
  | zero => rfl
  | succ width ih => simp [ofNat, ih]

theorem foldl_ofNat (width n acc : Nat) :
    (ofNat width n).foldl (fun n b => n * 256 + b.toNat) acc = acc * Nat.pow 256 width + n % Nat.pow 256 width := by
  induction width generalizing acc with
  | zero => simp [ofNat, Nat.mod_one]
  | succ width ih =>
    have byte : (UInt8.ofNat (n / Nat.pow 256 width)).toNat = n / Nat.pow 256 width % 256 := by simp
    have next : Nat.pow 256 (width + 1) = Nat.pow 256 width * 256 := rfl
    rw [ofNat, List.foldl_cons, ih, byte, next, Nat.mod_mul, Nat.add_mul, Nat.mul_assoc,
      Nat.mul_comm 256, Nat.mul_comm (_ % _)]
    omega

/-- Reading a number back gives its low bytes. -/
theorem toNat_ofNat (width n : Nat) : (ofNat width n).toNat = n % Nat.pow 256 width := by
  simpa [toNat] using foldl_ofNat width n 0

/-! ## Hexadecimal view -/

/-- The lower-case hexadecimal digit of a number below 16. -/
def hexDigit (n : Nat) : Char :=
  n.digitChar

/-- Two lower-case hexadecimal digits per byte. -/
def hex (bytes : Bytes) : String :=
  String.ofList (bytes.flatMap fun b => [hexDigit (b.toNat / 16), hexDigit (b.toNat % 16)])

/-- The value of a hexadecimal digit in either case. -/
def hexValue? (c : Char) : Option Nat :=
  if '0' ≤ c ∧ c ≤ '9' then some (c.toNat - 48)
  else if 'a' ≤ c ∧ c ≤ 'f' then some (c.toNat - 87)
  else if 'A' ≤ c ∧ c ≤ 'F' then some (c.toNat - 55)
  else none

end Bytes

end TextSocket
