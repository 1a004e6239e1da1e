import TextSocket.Url.Host

/-!
# `TextSocket.Url` — URLs in their normal form

A URL in normal form has a scheme in small letters, a host in its one spelling, no port that its scheme implies,
a path without dot segments, and percent signs in place of every character that its place does not allow.

## Contents

* `Url.Path`, `Url` — the parts of a URL;
* `Url.text` — its written form;
* `Url.isWebScheme`, `Url.defaultPort?` — what schemes imply.
-/

namespace TextSocket

/-! ## Schemes -/

/-- The port that a scheme of the web implies. -/
def Url.defaultPort? (scheme : String) : Option UInt16 :=
  [("http", (80 : UInt16)), ("ws", 80), ("https", 443), ("wss", 443), ("ftp", 21)].lookup scheme

/-- Whether the URLs of a scheme name a host that is looked up in the web. -/
def Url.isWebScheme (scheme : String) : Bool := (Url.defaultPort? scheme).isSome

/-! ## Parts -/

/-- The path of a URL. -/
inductive Url.Path where
  /-- A path that does not start at a root; it is kept as it is written. -/
  | rootless (text : String)
  /-- The names between the slashes. None stands for no path at all. -/
  | segments (names : List String)
  deriving DecidableEq, Repr

/-- The written form of a path. -/
def Url.Path.text : Url.Path → String
  | .rootless text => text
  | .segments names => String.join (names.map fun name => "/" ++ name)

/-- A URL. -/
structure Url where
  /-- The scheme. -/
  scheme : String
  /-- The user name; empty if there is none. -/
  username : String
  /-- The password; empty if there is none. -/
  password : String
  /-- The host, if the URL has the two slashes that announce one. -/
  host : Option Url.Host
  /-- The port, if it is not the one that the scheme implies. -/
  port : Option UInt16
  /-- The path. -/
  path : Url.Path
  /-- The query behind the question mark. -/
  query : Option String
  /-- The fragment behind the number sign. -/
  fragment : Option String
  deriving DecidableEq

namespace Url

/-! ## Writing -/

/-- The user name and the password, with the sign behind them. -/
def credentials (url : Url) : String :=
  if url.username.isEmpty && url.password.isEmpty then ""
  else url.username ++ (if url.password.isEmpty then "" else ":" ++ url.password) ++ "@"

/-- Everything from the scheme to the path. A path that would be taken for a host gets a dot in front. -/
def authority (url : Url) : String :=
  match url.host with
  | some host =>
    "//" ++ url.credentials ++ host.text ++
      (match url.port with
       | some port => ":" ++ toString port.toNat
       | none => "")
  | none =>
    match url.path with
    | .segments ("" :: _ :: _) => "/."
    | _ => ""

/-- A part behind its sign, if it is there. -/
def behind (sign : String) : Option String → String
  | some text => sign ++ text
  | none => ""

/-- The written form. -/
def text (url : Url) : String :=
  url.scheme ++ ":" ++ url.authority ++ url.path.text ++ behind "?" url.query ++ behind "#" url.fragment

end Url

end TextSocket
