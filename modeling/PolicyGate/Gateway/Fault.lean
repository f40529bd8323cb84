import PolicyGate.Json.Basic
import PolicyGate.Query.Fault
import PolicyGate.Token.Fault

/-!
Faults of requests to the gateway, and what a client is told of them: of a fault of the server only
that there was one.
-/
namespace PolicyGate

inductive GatewayFault where
  | invalidBody (reason : String)
  | auth (fault : AuthFault)
  | query (fault : QueryFault)
  | store (fault : StoreFault)
deriving DecidableEq

namespace GatewayFault

def message : GatewayFault → String
  | .invalidBody reason => "Invalid request body: " ++ reason
  | .auth fault => fault.message
  | .query fault => fault.message
  | .store fault => fault.message

def status : GatewayFault → Nat
  | .invalidBody _ => 400
  | .auth fault => fault.status
  | .query fault => fault.status
  | .store fault => if fault.isClient then 400 else 500

def clientMessage (fault : GatewayFault) : String :=
  if 500 ≤ fault.status then "Internal server error" else fault.message

def body (fault : GatewayFault) : Json :=
  .object [("error", .string fault.clientMessage), ("code", .int fault.status)]

end GatewayFault
end PolicyGate
