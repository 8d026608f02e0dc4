/-!
# Faults of URLs
-/

namespace Courier.Url

/-- Why a text is not a URL. -/
inductive Fault where
  | noBase
  | emptyHost
  | invalidDomain
  | invalidPort
  | invalidAddress4
  | invalidAddress6
  | forbiddenHostChar
  | baseWithoutPath
  deriving DecidableEq, Repr

/-- The wording of a fault. -/
def Fault.message : Fault → String
  | .noBase => "relative URL without a base"
  | .emptyHost => "empty host"
  | .invalidDomain => "invalid international domain name"
  | .invalidPort => "invalid port number"
  | .invalidAddress4 => "invalid IPv4 address"
  | .invalidAddress6 => "invalid IPv6 address"
  | .forbiddenHostChar => "invalid domain character"
  | .baseWithoutPath => "relative URL with a cannot-be-a-base base"

end Courier.Url
