import TextSocket.Url.Basic

/-!
# `TextSocket.Url.Parser` — reading URLs

Reading is generous: controls and spaces around the text are dropped, and so are line breaks and tabs anywhere;
URLs of the web may have any number of slashes or backslashes in front of the host. What is read is in normal
form. There is no base to which a reference could be relative.

## Contents

* `Url.parse` — reading.
-/

namespace TextSocket.Url

/-! ## The text before its parts -/

/-- Drops controls and spaces at both ends, and line breaks and tabs everywhere. -/
def tidy (text : List Char) : List Char :=
  let outer (c : Char) : Bool := c.toNat ≤ 32
  let inner := (((text.dropWhile outer).reverse).dropWhile outer).reverse
  inner.filter fun c => c != '\t' && c != '\n' && c != '\r'

/-- A character of a scheme behind its first letter. -/
def isSchemeChar (c : Char) : Bool := c.isAlphanum || c == '+' || c == '-' || c == '.'

/-- The scheme in small letters, and what follows its colon. -/
def scheme? (text : List Char) : Option (List Char × List Char) :=
  match text with
  | c :: _ =>
    if c.isAlpha then
      match text.dropWhile isSchemeChar with
      | ':' :: rest => some ((text.takeWhile isSchemeChar).map Char.toLower, rest)
      | _ => none
    else none
  | [] => none

/-- A slash, or a backslash in a URL of the web. -/
def isSlash (web : Bool) (c : Char) : Bool := c == '/' || (web && c == '\\')

/-- A character that ends the authority. -/
def endsAuthority (web : Bool) (c : Char) : Bool := isSlash web c || c == '?' || c == '#'

/-! ## Authority -/

/-- A user name, a password and what follows the sign behind them. -/
structure Credentials where
  /-- The user name. -/
  username : List Char
  /-- The password. -/
  password : List Char
  /-- What follows. -/
  rest : List Char

/-- Reads the credentials in front of the last sign within the authority. -/
def readCredentials (web : Bool) (text : List Char) : Except Fault Credentials :=
  let region := text.takeWhile fun c => !endsAuthority web c
  if region.contains '@' then
    let host := (region.reverse.takeWhile (· != '@')).reverse
    let user := region.take (region.length - host.length - 1)
    let rest := text.drop (user.length + 1)
    if user.isEmpty && (rest.head?.map (endsAuthority web)).getD false then .error .emptyHost
    else
      let name := user.takeWhile (· != ':')
      .ok ⟨encode isUserEscape name, encode isUserEscape (user.drop (name.length + 1)), rest⟩
  else .ok ⟨[], [], text⟩

/-- Cuts off the host. A colon within brackets belongs to it. -/
def cutHost (web : Bool) (inside : Bool) : List Char → List Char × List Char
  | [] => ([], [])
  | c :: rest =>
    if endsAuthority web c || (c == ':' && !inside) then ([], c :: rest)
    else
      let (host, rest) := cutHost web (if c == '[' then true else if c == ']' then false else inside) rest
      (c :: host, rest)

/-- Reads the port behind a colon. A port may be empty. -/
def readPort (text : List Char) : Except Fault (Option UInt16 × List Char) :=
  let digits := text.takeWhile Char.isDigit
  let rest := text.drop digits.length
  let n := Nat.ofDigitChars 10 digits 0
  if 65535 < n || !((rest.head?.map (endsAuthority true)).getD true) then .error .badPort
  else .ok (if digits.isEmpty then none else some (UInt16.ofNat n), rest)

/-! ## Path -/

/-- A segment that stands for the place where it is. -/
def isSingleDot (segment : List Char) : Bool :=
  let s := String.ofList (segment.map Char.toLower)
  s == "." || s == "%2e"

/-- A segment that stands for the place above. -/
def isDoubleDot (segment : List Char) : Bool :=
  let s := String.ofList (segment.map Char.toLower)
  s == ".." || s == ".%2e" || s == "%2e." || s == "%2e%2e"

/-- Cuts a path at its slashes. -/
def cutSegments (web : Bool) : List Char → List (List Char)
  | [] => [[]]
  | c :: rest =>
    if isSlash web c then [] :: cutSegments web rest
    else match cutSegments web rest with
      | [] => [[c]]
      | segment :: more => (c :: segment) :: more

/-- Follows the segments of a path; the result is in reverse. A path that ends in a dot segment ends in a
    slash. -/
def walk (above : List (List Char)) : List (List Char) → List (List Char)
  | [] => above
  | segment :: rest =>
    if isDoubleDot segment then
      if rest.isEmpty then [] :: above.tail else walk above.tail rest
    else if isSingleDot segment then
      if rest.isEmpty then [] :: above else walk above rest
    else walk (segment :: above) rest

/-- The normal form of a path behind its first slash. -/
def rooted (web : Bool) (text : List Char) : List (List Char) :=
  (walk [] ((cutSegments web text).map (encode isPathEscape))).reverse

/-- The part of a text before the query and the fragment, and the rest. -/
def cutPath (text : List Char) : List Char × List Char :=
  let path := text.takeWhile fun c => c != '?' && c != '#'
  (path, text.drop path.length)

/-! ## Query and fragment -/

/-- Reads the query and the fragment. -/
def readTail (web : Bool) (text : List Char) : Option String × Option String :=
  let escape := if web then isWebQueryEscape else isQueryEscape
  let fragment (rest : List Char) : String := String.ofList (encode isFragmentEscape rest)
  match text with
  | '?' :: rest =>
    let query := rest.takeWhile (· != '#')
    (some (String.ofList (encode escape query)),
      match rest.drop query.length with
      | _ :: rest => some (fragment rest)
      | [] => none)
  | '#' :: rest => (none, some (fragment rest))
  | _ => (none, none)

/-! ## Whole URLs -/

/-- Puts a URL together from what was read. -/
def assemble (web : Bool) (scheme : List Char) (credentials : Credentials) (host : Option Host)
    (port : Option UInt16) (path : Path) (tail : List Char) : Url :=
  let scheme := String.ofList scheme
  let (query, fragment) := readTail web tail
  { scheme
    username := String.ofList credentials.username
    password := String.ofList credentials.password
    host
    port := if port == defaultPort? scheme then none else port
    path
    query
    fragment }

/-- No credentials. -/
def noCredentials : Credentials := ⟨[], [], []⟩

/-- The path behind an authority. In a URL of the web it is never empty. -/
def pathAfterHost (web : Bool) (text : List Char) : List (List Char) :=
  match text with
  | [] => if web then rooted web [] else []
  | c :: rest => if isSlash web c then rooted web rest else rooted web text

/-- Reads what follows the two slashes. -/
def readAuthority (web : Bool) (scheme text : List Char) : Except Fault Url := do
  let credentials ← readCredentials web text
  let (hostText, rest) := cutHost web false credentials.rest
  let host ← if web then (if hostText.isEmpty then .error .emptyHost else Host.ofWeb hostText)
    else Host.ofOther hostText
  if hostText.isEmpty && rest.head? == some ':' then .error .emptyHost
  let (port, rest) ← match rest with
    | ':' :: rest => readPort rest
    | _ => .ok (none, rest)
  if hostText.isEmpty && !(credentials.username.isEmpty && credentials.password.isEmpty) then
    .error .emptyHost
  let (path, tail) := cutPath rest
  return assemble web scheme credentials (some host) port
    (.segments ((pathAfterHost web path).map String.ofList)) tail

/-- Whether a segment is the letter of a drive. -/
def isDriveLetter (segment : List Char) : Bool :=
  match segment with
  | [c, d] => c.isAlpha && (d == ':' || d == '|')
  | _ => false

/-- Follows the segments of a path of a file. The letter of a drive is never left. -/
def walkFile (above : List (List Char)) : List (List Char) → List (List Char)
  | [] => above
  | segment :: rest =>
    let up := if above.length == 1 && isDriveLetter (above.headD []) then above else above.tail
    if isDoubleDot segment then
      if rest.isEmpty then [] :: up else walkFile up rest
    else if isSingleDot segment then
      if rest.isEmpty then [] :: above else walkFile above rest
    else if above.isEmpty && isDriveLetter segment then
      walkFile ((segment.take 1 ++ [':']) :: above) rest
    else walkFile (segment :: above) rest

/-- The normal form of a path of a file behind its first slash, without empty segments in front. -/
def rootedFile (text : List Char) : List (List Char) :=
  let names := (walkFile [] ((cutSegments true text).map (encode isPathEscape))).reverse
  match names.dropWhile List.isEmpty with
  | [] => [[]]
  | names => names

/-- Reads what follows the scheme of a file. -/
def readFile (scheme text : List Char) : Except Fault Url := do
  let finish (host : String) (path tail : List Char) : Url :=
    let path := if (path.head?.map (isSlash true)).getD false then path.drop 1 else path
    assemble true scheme noCredentials (some (.name host)) none
      (.segments ((rootedFile path).map String.ofList)) tail
  match text with
  | a :: b :: rest =>
    if isSlash true a && isSlash true b then
      let hostText := rest.takeWhile fun c => !endsAuthority true c
      let (path, tail) := cutPath rest
      if hostText.isEmpty || isDriveLetter hostText then return finish "" path tail
      let host ← Host.ofWeb hostText
      let (path, tail) := cutPath (rest.drop hostText.length)
      return finish (if host.text == "localhost" then "" else host.text) path tail
    else
      let (path, tail) := cutPath text
      return finish "" path tail
  | _ =>
    let (path, tail) := cutPath text
    return finish "" path tail

/-- Reads a URL. -/
def parse (text : String) : Except Fault Url :=
  match scheme? (tidy text.toList) with
  | none => .error .relative
  | some (scheme, rest) =>
    if isWebScheme (String.ofList scheme) then
      readAuthority true scheme (rest.dropWhile (isSlash true))
    else if String.ofList scheme == "file" then readFile scheme rest
    else
      match rest with
      | '/' :: '/' :: rest => readAuthority false scheme rest
      | '/' :: rest =>
        let (path, tail) := cutPath rest
        .ok (assemble false scheme noCredentials none none
          (.segments ((rooted false path).map String.ofList)) tail)
      | _ =>
        let (path, tail) := cutPath rest
        .ok (assemble false scheme noCredentials none none
          (.rootless (String.ofList (encode isControlEscape path))) tail)

end TextSocket.Url
