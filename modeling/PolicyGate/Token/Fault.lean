/-!
Faults of authentication.
-/
namespace PolicyGate

inductive AuthFault where
  | authenticationRequired
  | malformedToken
  | invalidSignature
  /-- The token has expired, or never had an expiry, and is not exempt. -/
  | tokenExpired
  | tokenGenerationFailed
deriving DecidableEq

namespace AuthFault

def message : AuthFault → String
  | .authenticationRequired => "Authentication required"
  | .malformedToken => "Malformed token"
  | .invalidSignature => "Invalid token signature"
  | .tokenExpired => "Token expired"
  | .tokenGenerationFailed => "Internal error: token generation failed"

def status : AuthFault → Nat
  | .tokenGenerationFailed => 500
  | _ => 401

def isClient (fault : AuthFault) : Bool := fault.status < 500

end AuthFault
end PolicyGate
