import PolicyGate.Token.Claims
import PolicyGate.Token.Fault

/-!
Callers: a subject with the packages that its permissions name. Expiry is checked whenever claims are
resolved, against the time of the request.
-/
namespace PolicyGate

/-- A subject and the packages it acts for, in the order of their grants. -/
structure Caller where
  subject : String
  packages : List String
deriving DecidableEq

namespace Caller

/-- The package of those to whom no other is granted. -/
def anonymousPackage : String := "anonymous"

/-- A caller with the given packages, or the anonymous one if there are none. -/
def of (subject : String) (packages : List String) : Caller :=
  ⟨subject, if packages.isEmpty then [anonymousPackage] else packages⟩

def isAnonymous (c : Caller) : Bool := c.packages == [anonymousPackage]

end Caller

/-- Which permissions name packages, and which one keeps a token from expiring. -/
structure PermissionRules where
  scopePrefix : String := "api:"
  neverExpires : String := "token:never-expires"
deriving DecidableEq

namespace PermissionRules

def package? (r : PermissionRules) (permission : String) : Option String :=
  let scope := r.scopePrefix.toList
  let cs := permission.toList
  if scope.isPrefixOf cs ∧ scope.length < cs.length then some (String.ofList (cs.drop scope.length))
  else none

/-- The packages that permissions name, each once, in order. -/
def packages (r : PermissionRules) (permissions : List String) : List String :=
  (permissions.filterMap r.package?).eraseDups

def caller (r : PermissionRules) (subject : String) (permissions : List String) : Caller :=
  Caller.of subject (r.packages permissions)

def isCurrent (r : PermissionRules) (claims : Claims) (now : Timestamp) : Bool :=
  claims.permissions.contains r.neverExpires ||
    claims.expiresAt.any fun expiry => expiry.compare now == .gt

def resolve (r : PermissionRules) (claims : Claims) (now : Timestamp) : Except AuthFault Caller :=
  if r.isCurrent claims now then .ok (r.caller claims.subject claims.permissions)
  else .error .tokenExpired

end PermissionRules
end PolicyGate
