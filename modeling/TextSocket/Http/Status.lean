/-!
# `TextSocket.Http.Status` — response status codes

A status is a number of three digits. The registered ones have a reason phrase, which a response states
behind the number.

## Contents

* `Http.reasons` — the registered statuses and their phrases;
* `Http.Status` — a code from 100 to 999;
* `Status.reason?`, `Status.describe` — the phrase, and the wording of an error message.
-/

namespace TextSocket.Http

/-- The registered statuses and their reason phrases. -/
def reasons : List (Nat × String) := [
  (100, "Continue"), (101, "Switching Protocols"), (102, "Processing"), (103, "Early Hints"),
  (200, "OK"), (201, "Created"), (202, "Accepted"), (203, "Non Authoritative Information"),
  (204, "No Content"), (205, "Reset Content"), (206, "Partial Content"), (207, "Multi-Status"),
  (208, "Already Reported"), (226, "IM Used"),
  (300, "Multiple Choices"), (301, "Moved Permanently"), (302, "Found"), (303, "See Other"),
  (304, "Not Modified"), (305, "Use Proxy"), (307, "Temporary Redirect"),
  (308, "Permanent Redirect"),
  (400, "Bad Request"), (401, "Unauthorized"), (402, "Payment Required"), (403, "Forbidden"),
  (404, "Not Found"), (405, "Method Not Allowed"), (406, "Not Acceptable"),
  (407, "Proxy Authentication Required"), (408, "Request Timeout"), (409, "Conflict"),
  (410, "Gone"), (411, "Length Required"), (412, "Precondition Failed"),
  (413, "Payload Too Large"), (414, "URI Too Long"), (415, "Unsupported Media Type"),
  (416, "Range Not Satisfiable"), (417, "Expectation Failed"), (418, "I'm a teapot"),
  (421, "Misdirected Request"), (422, "Unprocessable Entity"), (423, "Locked"),
  (424, "Failed Dependency"), (425, "Too Early"), (426, "Upgrade Required"),
  (428, "Precondition Required"), (429, "Too Many Requests"),
  (431, "Request Header Fields Too Large"), (451, "Unavailable For Legal Reasons"),
  (500, "Internal Server Error"), (501, "Not Implemented"), (502, "Bad Gateway"),
  (503, "Service Unavailable"), (504, "Gateway Timeout"), (505, "HTTP Version Not Supported"),
  (506, "Variant Also Negotiates"), (507, "Insufficient Storage"), (508, "Loop Detected"),
  (510, "Not Extended"), (511, "Network Authentication Required")]

/-- A status code. -/
structure Status where
  /-- The code. -/
  code : Nat
  /-- A code has three digits. -/
  range : 100 ≤ code ∧ code ≤ 999
  deriving DecidableEq

namespace Status

instance : Repr Status where
  reprPrec status _ := repr status.code

/-- The status with a code, if the code has three digits. -/
def ofCode? (code : Nat) : Option Status :=
  if h : 100 ≤ code ∧ code ≤ 999 then some ⟨code, h⟩ else none

/-- The reason phrase of a registered status. -/
def reason? (status : Status) : Option String := reasons.lookup status.code

/-- The wording of a status in an error message. -/
def describe (status : Status) : String :=
  toString status.code ++ " " ++ status.reason?.getD "<unknown status code>"

/-- 101 -/
def switchingProtocols : Status := ⟨101, by decide⟩

/-- 503 -/
def serviceUnavailable : Status := ⟨503, by decide⟩

end Status

end TextSocket.Http
