/-!
# Why a text is no URL

Texts are read as URLs without a base, so a text without a scheme is refused; all other
faults are in the authority.
-/

namespace ApiNotes

namespace Url

/-- Why a text is no URL. -/
inductive Fault where
  | emptyHost
  | domain
  | port
  | ipv4
  | ipv6
  | hostCharacter
  | relative
deriving Repr, DecidableEq

/-- The wording of a fault. -/
def Fault.message : Fault → String
  | emptyHost => "empty host"
  | domain => "invalid international domain name"
  | port => "invalid port number"
  | ipv4 => "invalid IPv4 address"
  | ipv6 => "invalid IPv6 address"
  | hostCharacter => "invalid domain character"
  | relative => "relative URL without a base"

end Url

end ApiNotes
