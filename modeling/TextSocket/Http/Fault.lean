/-!
# `TextSocket.Http.Fault` — what can be wrong with an HTTP message

The head of a message is read in two passes. The first one splits it into its parts and refuses bytes that no
part may hold; the second one makes a target, a status and header fields of the parts.

## Contents

* `Http.HeadFault` — causes of the first pass;
* `Http.PartFault` — causes of the second pass;
* their wordings.
-/

namespace TextSocket.Http

/-- Why a head cannot be split into its parts. -/
inductive HeadFault where
  /-- A header line does not start with a name and a colon. -/
  | headerName
  /-- A header value holds a control character. -/
  | headerValue
  /-- A line ends wrongly. -/
  | newLine
  /-- A status line holds a bad code or phrase. -/
  | status
  /-- A request line holds a byte that does not belong there. -/
  | token
  /-- There are more header lines than allowed. -/
  | tooManyHeaders
  /-- The version is unknown. -/
  | version
  deriving DecidableEq, Repr

namespace HeadFault

/-- The wording of a cause. -/
def message : HeadFault → String
  | headerName => "invalid header name"
  | headerValue => "invalid header value"
  | newLine => "invalid new line"
  | status => "invalid response status"
  | token => "invalid token"
  | tooManyHeaders => "too many headers"
  | version => "invalid HTTP version"

end HeadFault

/-- Why a part of a head is not what it should be. -/
inductive PartFault where
  /-- A method that is no token. -/
  | method
  /-- A target holds a byte that does not belong there. -/
  | uriCharacter
  /-- The host part of a target is malformed. -/
  | authority
  /-- A target has none of the four forms. -/
  | uriFormat
  /-- A target has more than 65534 bytes. -/
  | uriTooLong
  /-- A target is empty. -/
  | emptyUri
  /-- The scheme of a target has more than 64 bytes. -/
  | schemeTooLong
  /-- A status code below 100. -/
  | statusCode
  /-- A header name that is too long. -/
  | headerName
  /-- A header value that holds a control character. -/
  | headerValue
  deriving DecidableEq, Repr

namespace PartFault

/-- The wording of a cause. -/
def message : PartFault → String
  | method => "invalid HTTP method"
  | uriCharacter => "invalid uri character"
  | authority => "invalid authority"
  | uriFormat => "invalid format"
  | uriTooLong => "uri too long"
  | emptyUri => "empty string"
  | schemeTooLong => "scheme too long"
  | statusCode => "invalid status code"
  | headerName => "invalid HTTP header name"
  | headerValue => "failed to parse header value"

end PartFault

end TextSocket.Http
