import TextSocket.Text.Hidden

/-!
# `TextSocket.Text.Quoted` — texts in quotes

An error message shows a text that it complains about in double quotes. Inside them a quote and a backslash
are escaped, the usual controls have short escapes, and any other character that would not show by itself is
written as its code point in braces.

## Contents

* `Text.escape` — the escaped form of one character;
* `Text.quoted` — a text in quotes.
-/

namespace TextSocket.Text

/-- The code point of a character in hexadecimal, as an escape. -/
def codePoint (c : Char) : List Char :=
  '\\' :: 'u' :: '\x7b' :: Nat.toDigits 16 c.toNat ++ ['\x7d']

/-- The form of a character between quotes. -/
def escape (c : Char) : List Char :=
  if c = '\x00' then ['\\', '0']
  else if c = '\t' then ['\\', 't']
  else if c = '\r' then ['\\', 'r']
  else if c = '\n' then ['\\', 'n']
  else if c = '\\' then ['\\', '\\']
  else if c = '"' then ['\\', '"']
  else if isHidden c then codePoint c
  else [c]

/-- A text in double quotes. -/
def quoted (text : String) : String :=
  String.ofList ('"' :: text.toList.flatMap escape ++ ['"'])

end TextSocket.Text
