import TextSocket.Bytes
import TextSocket.Net.Ipv4

/-!
# `TextSocket.Net.Ipv6` — addresses of eight words

## Contents

* `Net.Ipv6` — an address of eight 16-bit words;
* `Ipv6.text` — the short form, in which `::` stands for the longest run of zeros;
* `Ipv6.parse?` — reading; the last two words may be written as four octets.
-/

namespace TextSocket.Net

/-- An address of eight words. -/
structure Ipv6 where
  /-- The words, the most significant first. -/
  words : List UInt16
  /-- There are eight. -/
  length_words : words.length = 8
  deriving DecidableEq

namespace Ipv6

/-! ## Writing -/

/-- The number of zeros at the beginning. -/
def leadingZeros (words : List UInt16) : Nat := (words.takeWhile (· == 0)).length

/-- The longest run of at least two zeros, as its place and its length; the first one of several. -/
def longestRun : List UInt16 → Nat → Option (Nat × Nat)
  | [], _ => none
  | w :: rest, place =>
    let here := leadingZeros (w :: rest)
    match longestRun rest (place + 1) with
    | some (p, n) => if here < n then some (p, n) else some (place, here)
    | none => if 2 ≤ here then some (place, here) else none

/-- Words in hexadecimal digits without leading zeros, with colons between them. -/
def writeWords (words : List UInt16) : String :=
  String.intercalate ":" (words.map fun w => String.ofList (Nat.toDigits 16 w.toNat))

/-- The short form. -/
def text (address : Ipv6) : String :=
  match longestRun address.words 0 with
  | some (place, n) =>
    writeWords (address.words.take place) ++ "::" ++ writeWords (address.words.drop (place + n))
  | none => writeWords address.words

/-! ## Reading -/

/-- One word: one to four hexadecimal digits. -/
def word? (digits : List Char) : Option UInt16 :=
  if digits.isEmpty || 4 < digits.length then none
  else (digits.mapM Bytes.hexValue?).map fun values =>
    UInt16.ofNat (values.foldl (fun n d => n * 16 + d) 0)

/-- Words with colons between them. The last piece may be four octets in dotted form. -/
def pieces? (dotted : Bool) : List (List Char) → Option (List UInt16)
  | [] => some []
  | [last] =>
    match word? last with
    | some w => some [w]
    | none =>
      if dotted then
        (Ipv4.parse? (String.ofList last)).map fun a =>
          [UInt16.ofNat (a.a.toNat * 256 + a.b.toNat), UInt16.ofNat (a.c.toNat * 256 + a.d.toNat)]
      else none
  | piece :: rest =>
    match word? piece, pieces? dotted rest with
    | some w, some more => some (w :: more)
    | _, _ => none

/-- Words with colons between them, or nothing. -/
def run? (dotted : Bool) (text : List Char) : Option (List UInt16) :=
  if text.isEmpty then some [] else pieces? dotted (Ipv4.cutAt ':' text)

/-- Cuts a text at the first `::`. -/
def cutAtGap : List Char → Option (List Char × List Char)
  | ':' :: ':' :: rest => some ([], rest)
  | c :: rest => (cutAtGap rest).map fun (before, after) => (c :: before, after)
  | [] => none

/-- Eight words as an address. -/
def ofWords? (words : List UInt16) : Option Ipv6 :=
  if h : words.length = 8 then some ⟨words, h⟩ else none

/-- Reads an address. A gap stands for at least one zero. -/
def parse? (text : List Char) : Option Ipv6 :=
  match cutAtGap text with
  | none => (run? true text).bind ofWords?
  | some (before, after) =>
    match run? false before, run? true after with
    | some high, some low =>
      if high.length + low.length < 8 then
        ofWords? (high ++ List.replicate (8 - (high.length + low.length)) 0 ++ low)
      else none
    | _, _ => none

end Ipv6

end TextSocket.Net
