import WhipWhep.Url.Address
import WhipWhep.Url.Domain

/-!
The host of a URL. Schemes that name hosts of the internet have a domain or a numeric address; a
domain is kept in lowercase ASCII. Other schemes have any text without delimiters.
-/

namespace WhipWhep.Url

inductive Host where
  | name (text : List Char)
  | ipv4 (address : Nat)
  | ipv6 (pieces : List Nat)
  deriving DecidableEq

def Host.text : Host → List Char
  | name text => text
  | ipv4 address => ipv4Text address
  | ipv6 pieces => '[' :: ipv6Text pieces ++ [']']

/-- The text between square brackets. -/
def bracketed? (text : List Char) : Option (List Char) :=
  if text.length ≥ 2 ∧ text.getLast? = some ']' then some ((text.drop 1).dropLast) else none

def readIpv6 (text : List Char) : Except UrlError Host :=
  match (bracketed? text).bind ipv6? with
  | some pieces => .ok (.ipv6 pieces)
  | none => .error .invalidIpv6

/-- The host of a URL whose scheme names hosts of the internet. -/
def Host.read (text : List Char) : Except UrlError Host :=
  if text.head? = some '[' then readIpv6 text
  else
    let bytes := percentDecode (text.flatMap String.utf8EncodeChar)
    match (String.fromUTF8? bytes.toByteArray).bind fun decoded => domainText? decoded.toList with
    | none => .error .invalidDomainName
    | some [] => .error .emptyHost
    | some domain =>
      if endsInNumber domain then (ipv4? domain).map .ipv4 else .ok (.name domain)

/-- The host of any other URL. -/
def Host.readBare (text : List Char) : Except UrlError Host :=
  if text.head? = some '[' then readIpv6 text
  else if text.any deniedInHost then .error .invalidDomainCharacter
  else .ok (.name (percentEncode isControl text))

end WhipWhep.Url
