/-!
Why a text is no URI.
-/

namespace Bilingual.Uri

inductive Error
  | noScheme
  | emptyHost
  | badPort
  | badDomain
  | badHostCharacter
  | badIpv4
  | badIpv6
  deriving DecidableEq, Repr

def Error.message : Error → String
  | .noScheme => "relative URL without a base"
  | .emptyHost => "empty host"
  | .badPort => "invalid port number"
  | .badDomain => "invalid international domain name"
  | .badHostCharacter => "invalid domain character"
  | .badIpv4 => "invalid IPv4 address"
  | .badIpv6 => "invalid IPv6 address"

end Bilingual.Uri
