import PolicyGate.Http.Message
import PolicyGate.Net.Address

/-!
Where the gateway listens and which browser origins may call it. An origin that cannot stand in a
header is a fault, never dropped.
-/
namespace PolicyGate

/-- The listening address as it is configured. Without origins any origin may call. -/
structure Listener where
  host : String := "0.0.0.0"
  port : UInt16 := 8080
  origins : List String := []
deriving DecidableEq

inductive ListenFault where
  | host (given : String)
  | origin (given : String)
deriving DecidableEq

def ListenFault.message : ListenFault → String
  | .host given => "host is not an IP address: '" ++ given ++ "'"
  | .origin given => "CORS origin is not a valid header value: '" ++ given ++ "'"

inductive OriginPolicy where
  | any
  | listed (origins : List String)
deriving DecidableEq

namespace Listener

/-- The address of the host. Brackets around it are dropped, `localhost` is the loopback. -/
def address (l : Listener) : Except ListenFault Net.Address :=
  let host := Text.trim l.host
  if Text.sameIgnoringCase host "localhost" then .ok .loopback
  else
    let inner := ((host.toList.dropWhile (· == '[')).reverse.dropWhile (· == ']')).reverse
    match Net.Address.read? inner with
    | some a => .ok a
    | none => .error (.host l.host)

/-- An origin without the blanks around it. -/
def allowedOrigin (given : String) : Except ListenFault String :=
  let origin := Text.trim given
  if !origin.isEmpty && Http.isFieldValue origin.toList then .ok origin else .error (.origin given)

def allowedOrigins (l : Listener) : Except ListenFault (List String) := l.origins.mapM allowedOrigin

def allowsAnyOrigin (l : Listener) : Bool := l.origins.isEmpty

def check (l : Listener) : Except ListenFault Unit := do
  let _ ← l.address
  let _ ← l.allowedOrigins
  return ()

/-- The policy for origins. There is none for a list in which `*` stands: that is no origin. -/
def originPolicy (l : Listener) : Except ListenFault (Option OriginPolicy) :=
  if l.allowsAnyOrigin then .ok (some .any)
  else l.allowedOrigins.map fun origins => if origins.contains "*" then none else some (.listed origins)

end Listener
end PolicyGate
