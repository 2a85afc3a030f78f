/-!
Why a text is no URL.
-/

namespace WhipWhep

inductive UrlError where
  | emptyHost
  | invalidDomainName
  | invalidDomainCharacter
  | invalidPort
  | invalidIpv4
  | invalidIpv6
  | relativeWithoutBase
  | relativeWithBareBase
  deriving DecidableEq

def UrlError.message : UrlError → String
  | emptyHost => "empty host"
  | invalidDomainName => "invalid international domain name"
  | invalidDomainCharacter => "invalid domain character"
  | invalidPort => "invalid port number"
  | invalidIpv4 => "invalid IPv4 address"
  | invalidIpv6 => "invalid IPv6 address"
  | relativeWithoutBase => "relative URL without a base"
  | relativeWithBareBase => "relative URL with a cannot-be-a-base base"

end WhipWhep
