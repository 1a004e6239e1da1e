import TextSocket.Json.Reader

/-!
# `TextSocket.Json.Skip` — passing over a value of any type

A member that nobody asked for is passed over, but it must be well-formed. The text is read one character at
a time by a machine with a stack of the brackets that are open, so nesting is bounded by nothing but the
text.

## Contents

* `Json.Spot` — what may come next;
* `Json.advance` — one character's effect on the open brackets and the spot;
* `Json.skipValue` — the text behind one value.
-/

namespace TextSocket.Json

/-- A bracket that is open. -/
inductive Opened where
  /-- A list. -/
  | list
  /-- An object. -/
  | object
  deriving DecidableEq, Repr

/-- What may come next. -/
inductive Spot where
  /-- A value. -/
  | value
  /-- The first element or the end of a list. -/
  | firstElement
  /-- The first key or the end of an object. -/
  | firstKey
  /-- A key. -/
  | key
  /-- The colon behind a key. -/
  | colon
  /-- A comma or a closing bracket; the end, if no bracket is open. -/
  | done
  /-- The given letters of a literal. -/
  | letters (left : List Char)
  /-- Within a string, which is a key or a value. -/
  | string (isKey : Bool)
  /-- Behind a backslash. -/
  | escape (isKey : Bool)
  /-- The given number of hexadecimal digits. -/
  | hex (isKey : Bool) (left : Nat)
  /-- The first digit of a number. -/
  | firstDigit
  /-- Behind a leading zero. -/
  | leadingZero
  /-- The digits before a point. -/
  | digits
  /-- The first digit behind a point. -/
  | firstDecimal
  /-- The digits behind a point. -/
  | decimals
  /-- The sign or first digit of an exponent. -/
  | exponentSign
  /-- The first digit of an exponent. -/
  | firstExponentDigit
  /-- The digits of an exponent. -/
  | exponentDigits
  deriving DecidableEq, Repr

/-- A character's effect. -/
inductive Advance where
  /-- The character is passed. -/
  | go (stack : List Opened) (spot : Spot)
  /-- The value has ended before the character. -/
  | stay
  /-- The character is wrong; the place lies behind it if it counts as read. -/
  | fail (fault : Fault) (bytes : Nat)
  deriving Inhabited

/-- The spot behind a string. -/
def behindString (isKey : Bool) : Spot := if isKey then .colon else .done

/-- A character behind a value within open brackets. -/
def advanceDone (stack : List Opened) (c : Char) : Advance :=
  match stack with
  | [] => .stay
  | top :: below =>
    if isBlank c then .go stack .done
    else match top with
      | .list =>
        if c = ',' then .go stack .value
        else if c = ']' then .go below .done
        else .fail .noCommaInList 1
      | .object =>
        if c = ',' then .go stack .key
        else if c = '\x7d' then .go below .done
        else .fail .noCommaInObject 1

/-- The first character of a value. -/
def advanceValue (stack : List Opened) (c : Char) : Advance :=
  if isBlank c then .go stack .value
  else if c = 'n' then .go stack (.letters ['u', 'l', 'l'])
  else if c = 't' then .go stack (.letters ['r', 'u', 'e'])
  else if c = 'f' then .go stack (.letters ['a', 'l', 's', 'e'])
  else if c = '-' then .go stack .firstDigit
  else if c = '0' then .go stack .leadingZero
  else if c.isDigit then .go stack .digits
  else if c = '"' then .go stack (.string false)
  else if c = '[' then .go (.list :: stack) .firstElement
  else if c = '\x7b' then .go (.object :: stack) .firstKey
  else .fail .noValue 1

/-- A character behind the whole part of a number. -/
def advanceWhole (stack : List Opened) (c : Char) : Advance :=
  if c = '.' then .go stack .firstDecimal
  else if c = 'e' ∨ c = 'E' then .go stack .exponentSign
  else advanceDone stack c

/-- A character where a key must stand. -/
def advanceKey (stack : List Opened) (spot : Spot) (c : Char) : Advance :=
  if isBlank c then .go stack spot
  else if c = '"' then .go stack (.string true)
  else .fail .badKey 1

/-- One character's effect on the open brackets and the spot. -/
def advance (stack : List Opened) (spot : Spot) (c : Char) : Advance :=
  match spot with
  | .value => advanceValue stack c
  | .firstElement =>
    if isBlank c then .go stack .firstElement
    else if c = ']' then .go stack.tail .done
    else advanceValue stack c
  | .firstKey =>
    if c = '\x7d' then .go stack.tail .done else advanceKey stack .firstKey c
  | .key => advanceKey stack .key c
  | .colon =>
    if isBlank c then .go stack .colon
    else if c = ':' then .go stack .value
    else .fail .noColon 1
  | .done => advanceDone stack c
  | .letters [] => advanceDone stack c
  | .letters [expected] => if c = expected then .go stack .done else .fail .badLiteral 1
  | .letters (expected :: left) =>
    if c = expected then .go stack (.letters left) else .fail .badLiteral 1
  | .string isKey =>
    if c = '"' then .go stack (behindString isKey)
    else if c = '\\' then .go stack (.escape isKey)
    else if isControl c then .fail .controlInString 0
    else .go stack (.string isKey)
  | .escape isKey =>
    if c = 'u' then .go stack (.hex isKey 4)
    else if (shortEscape? c).isSome then .go stack (.string isKey)
    else .fail .badEscape 1
  | .hex isKey left =>
    if (Bytes.hexValue? c).isSome then
      .go stack (if left ≤ 1 then .string isKey else .hex isKey (left - 1))
    else .fail .badEscape left
  | .firstDigit =>
    if c = '0' then .go stack .leadingZero
    else if c.isDigit then .go stack .digits
    else .fail .badNumber 1
  | .leadingZero => if c.isDigit then .fail .badNumber 1 else advanceWhole stack c
  | .digits => if c.isDigit then .go stack .digits else advanceWhole stack c
  | .firstDecimal => if c.isDigit then .go stack .decimals else .fail .badNumber 1
  | .decimals =>
    if c.isDigit then .go stack .decimals
    else if c = 'e' ∨ c = 'E' then .go stack .exponentSign
    else advanceDone stack c
  | .exponentSign =>
    if c = '+' ∨ c = '-' then .go stack .firstExponentDigit
    else if c.isDigit then .go stack .exponentDigits
    else .fail .badNumber 1
  | .firstExponentDigit => if c.isDigit then .go stack .exponentDigits else .fail .badNumber 1
  | .exponentDigits => if c.isDigit then .go stack .exponentDigits else advanceDone stack c

/-- The fault of a text that ends within brackets. -/
def endWithin : List Opened → Fault
  | .object :: _ => .endInObject
  | .list :: _ => .endInList
  | [] => .endInValue

/-- The fault of a text that ends at a spot; none if the value is complete. -/
def endFault? (stack : List Opened) (spot : Spot) : Option Fault :=
  match spot with
  | .value | .letters _ => some .endInValue
  | .firstElement => some .endInList
  | .firstKey | .key | .colon => some .endInObject
  | .string _ | .escape _ | .hex _ _ => some .endInString
  | .firstDigit | .firstDecimal | .exponentSign | .firstExponentDigit => some .badNumber
  | .done | .leadingZero | .digits | .decimals | .exponentDigits =>
    if stack.isEmpty then none else some (endWithin stack)

/-- Runs the machine up to the end of the value. An escape looks at as many bytes as it misses digits, so a
    wrong digit shortly before the end of the text counts as the end. -/
def skipFrom : List Opened → Spot → List Char → Except Stuck (List Char)
  | [], .done, s => .ok s
  | stack, spot, [] =>
    match endFault? stack spot with
    | none => .ok []
    | some fault => stop fault []
  | stack, spot, c :: rest =>
    match advance stack spot c with
    | .go stack spot => skipFrom stack spot rest
    | .stay => .ok (c :: rest)
    | .fail fault bytes =>
      if bytes ≤ (String.ofList (c :: rest)).utf8ByteSize then .error ⟨fault, c :: rest, bytes⟩
      else stop .endInString []

/-- The text behind one value of any type. -/
def skipValue (s : List Char) : Except Stuck (List Char) :=
  skipFrom [] .value s

end TextSocket.Json
