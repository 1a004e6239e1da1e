import TextSocket.Http.Request
import TextSocket.Http.Status

/-!
# `TextSocket.Http.Response` — responses

A client reads the head of one response. A server writes short responses with a text as their body, which
can be told apart when several follow each other on one stream, since each states the length of its body.

## Contents

* `Http.Response`, `Response.parse` — the head of a response, and reading it;
* `Http.refusal` — a response with a text;
* `Http.switching` — the response that ends the handshake;
* `Response.readBody?`, `Response.readAll?` — reading responses with their bodies.
-/

namespace TextSocket.Http

/-- The head of a response. -/
structure Response where
  /-- The minor version of the protocol. -/
  version : Nat
  /-- The three digits of the code. -/
  code : Nat
  /-- The header lines. -/
  lines : List (Bytes × Bytes)
  deriving DecidableEq

namespace Response

/-! ## Reading a head -/

/-- The greatest number of header lines. -/
def fieldLimit : Nat := 124

/-- Reads the head of a response. -/
def parse (bytes : Bytes) : Scan Response :=
  (Head.skipBlankLines bytes).andThen fun _ bytes =>
  (Head.readVersion bytes).andThen fun version bytes =>
  (Head.readSpace .version bytes).andThen fun _ bytes =>
  (Head.readCode 3 0 bytes).andThen fun code bytes =>
  (Head.readReason bytes).andThen fun _ bytes =>
  (Head.readFields fieldLimit bytes).map fun lines => ⟨version, code, lines⟩

end Response

/-! ## Writing -/

/-- The first line of a response. -/
def statusLine (status : Status) : Bytes :=
  Bytes.ofText ("HTTP/1.1 " ++ toString status.code ++ " " ++ status.reason?.getD "")

/-- A header line in text. -/
def line (name value : String) : Bytes × Bytes := (Bytes.ofText name, Bytes.ofText value)

/-- A response with a text, behind which the stream is not used any more. -/
def refusal (status : Status) (body : Bytes) : Bytes :=
  Head.write (statusLine status)
    [line "Content-Type" "text/plain; charset=utf-8", line "X-Content-Type-Options" "nosniff",
      line "Content-Length" (toString body.length), line "Connection" "close"] ++ body

/-- The response that ends the handshake, with the proof that the key was seen. -/
def switching (accept : Bytes) : Bytes :=
  Head.write (statusLine .switchingProtocols)
    [line "Connection" "Upgrade", line "Upgrade" "websocket",
      (Bytes.ofText "Sec-WebSocket-Accept", accept)]

/-! ## Reading with bodies -/

namespace Response

/-- The number that digits write, if they are digits. -/
def decimal? (digits : Bytes) : Option Nat :=
  if digits.isEmpty || !digits.all Ascii.isDigit then none
  else some (digits.foldl (fun n b => n * 10 + (b.toNat - 48)) 0)

/-- The length of the body that a head states. -/
def bodyLength? (response : Response) : Option Nat :=
  (response.lines.find? fun line => Ascii.equalFold line.1 Header.Name.contentLength.bytes).bind
    fun line => decimal? line.2

/-- Reads one response: its status, its body and what follows it. -/
def readBody? (bytes : Bytes) : Option ((Status × Bytes) × Bytes) :=
  match parse bytes with
  | .found response rest =>
    match Status.ofCode? response.code, response.bodyLength? with
    | some status, some n =>
      if n ≤ rest.length then some ((status, rest.take n), rest.drop n) else none
    | _, _ => none
  | _ => none

/-- Reads responses until the bytes end; at most `fuel` of them. -/
def readMany? : Nat → Bytes → Option (List (Status × Bytes))
  | _, [] => some []
  | 0, _ :: _ => none
  | fuel + 1, b :: bytes =>
    match readBody? (b :: bytes) with
    | some (response, rest) => (readMany? fuel rest).map (response :: ·)
    | none => none

/-- Reads all responses that follow each other. -/
def readAll? (bytes : Bytes) : Option (List (Status × Bytes)) := readMany? bytes.length bytes

end Response

end TextSocket.Http
