/-!
# `TextSocket.Url.Fault` — what can be wrong with a URL

## Contents

* `Url.Fault` — the causes for which a text is no URL;
* `Fault.message` — their wording.
-/

namespace TextSocket.Url

/-- Why a text is no URL. -/
inductive Fault where
  /-- A URL of the web must name a host. -/
  | emptyHost
  /-- A host name that cannot be written in ASCII, or holds a character that no host name may hold. -/
  | badDomain
  /-- A port that is no number, or greater than 65535. -/
  | badPort
  /-- A host that ends in a number but is no IPv4 address. -/
  | badIpv4
  /-- Brackets that hold no IPv6 address. -/
  | badIpv6
  /-- A character that no host of an unknown scheme may hold. -/
  | badHostCharacter
  /-- A reference without a scheme. -/
  | relative
  /-- A URL of more than four gigabytes. -/
  | tooLong
  deriving DecidableEq, Repr

namespace Fault

/-- The wording of a cause. -/
def message : Fault → String
  | emptyHost => "empty host"
  | badDomain => "invalid international domain name"
  | badPort => "invalid port number"
  | badIpv4 => "invalid IPv4 address"
  | badIpv6 => "invalid IPv6 address"
  | badHostCharacter => "invalid domain character"
  | relative => "relative URL without a base"
  | tooLong => "URLs more than 4 GB are not supported"

end Fault

end TextSocket.Url
