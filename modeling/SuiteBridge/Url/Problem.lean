/-!
# What can be wrong with a web address
-/

namespace SuiteBridge

/-- Why a text is no web address. -/
inductive UrlProblem where
  | relative
  | emptyHost
  | port
  | ipv4
  | ipv6
  | domain
  | hostCharacter
  | scheme (name : String)
  deriving DecidableEq, Repr

/-- The wording of a problem. -/
def UrlProblem.message : UrlProblem → String
  | .relative => "relative URL without a base"
  | .emptyHost => "empty host"
  | .port => "invalid port number"
  | .ipv4 => "invalid IPv4 address"
  | .ipv6 => "invalid IPv6 address"
  | .domain => "invalid international domain name"
  | .hostCharacter => "invalid domain character"
  | .scheme name => "unsupported scheme '" ++ name ++ "'"

end SuiteBridge
