import TextSocket.Bytes
import TextSocket.Text.Composition
import TextSocket.Text.Folding
import TextSocket.Text.Joining
import TextSocket.Url.Fault
import TextSocket.Url.Percent
import TextSocket.Url.Punycode

/-!
# `TextSocket.Url.Domain` — host names in ASCII

A URL may spell a host name in any case, with characters beyond ASCII, and with percent signs. All spellings of
one name have one ASCII form: the name is decoded, folded and composed, and each label that is not ASCII by
then is written with the mark `xn--`. A label that comes with that mark must be what this writing produces. Names
that could be taken for another, because they read in two directions or hold joiners that do not show, are none.

## Contents

* `Url.toAscii?` — the ASCII form of a host name;
* `Url.isForbiddenAscii` — the ASCII characters that no host name may hold.
-/

namespace TextSocket.Url

/-- An ASCII character that no host name may hold. -/
def isForbiddenAscii (c : Char) : Bool :=
  c.toNat ≤ 32 || c.toNat == 127 || "%#/:<>?@[\\]^|".toList.contains c

/-- The mark in front of a label that stands for one beyond ASCII. -/
def labelMark : List Char := "xn--".toList

/-- The greatest number of characters of a label that is converted. -/
def labelLimit : Nat := 1000

/-- Whether all characters are ASCII. -/
def isAscii (text : List Char) : Bool := text.all fun c => c.toNat < 128

/-- Folds every character; none if a name may not hold one of them. -/
def foldAll? (text : List Char) : Option (List Char) :=
  (text.mapM Text.fold?).map List.flatten

/-- Whether a label beyond ASCII is spelled as names are: folding and composing change nothing, it does not
    begin with a mark, and every invisible joiner in it makes a difference. -/
def isSettled (label : List Char) : Bool :=
  foldAll? label == some label && Text.compose label == label &&
    (match label with
     | c :: _ => !Text.isMark c
     | [] => true) &&
    Text.areJoinersSeen label

/-- What a label of a folded and composed name stands for: the label that its mark announces, or itself. -/
def meaning? (label : List Char) : Option (List Char) :=
  if isAscii label then
    if labelMark.isPrefixOf label then
      match Punycode.decode? (label.drop labelMark.length) with
      | none => none
      | some meant =>
        if !isAscii meant && isSettled meant && !meant.any (fun c => c == '.' || isForbiddenAscii c) &&
            labelMark ++ Punycode.encode meant == label then some meant
        else none
    else some label
  else if isSettled label && label.length ≤ labelLimit then some label
  else none

/-- The ASCII form of what a label stands for. -/
def labelToAscii (meant : List Char) : List Char :=
  if isAscii meant then meant else labelMark ++ Punycode.encode meant

/-- Cuts a name at its dots. -/
def labels : List Char → List (List Char)
  | [] => [[]]
  | c :: rest =>
    if c = '.' then [] :: labels rest
    else match labels rest with
      | [] => [[c]]
      | label :: more => (c :: label) :: more

/-- The ASCII form of a host name, which may be empty. -/
def toAscii? (name : List Char) : Option (List Char) :=
  match Bytes.text? (decodeBytes (name.flatMap String.utf8EncodeChar)) with
  | none => none
  | some decoded =>
    match foldAll? decoded.toList with
    | none => none
    | some folded =>
      match (labels (Text.compose folded)).mapM meaning? with
      | none => none
      | some meant =>
        let name := ['.'].intercalate (meant.map labelToAscii)
        if !Text.areReadable meant || name.any isForbiddenAscii then none else some name

end TextSocket.Url
