import PolicyGate.Config.Service
import PolicyGate.Gateway.Handlers
import PolicyGate.Gateway.Route

/-!
Responses to requests. Whatever a request asks for, the response tells browsers whether a page of the
request's origin may read it; requests that only ask for that are answered at once.
-/
namespace PolicyGate.Gateway

def version : String := "0.1.0"

/-- The largest body that is read, in bytes. -/
def greatestBody : Nat := 2097152

/-- The fields for browsers: which fields the response depends on, and the origin that may read it. -/
def originHeaders (policy : OriginPolicy) (headers : Http.Headers) : Http.Headers :=
  let origin : Option String := match policy with
    | .any => some "*"
    | .listed origins => (headers.first? "origin").filter origins.contains
  (origin.toList.map fun o => ("access-control-allow-origin", o)) ++
    [("vary", "origin, access-control-request-method, access-control-request-headers")]

/-- The answer to a request that asks what it may ask. -/
def preflight (route : Option Route) : Http.Response :=
  .empty 200 ([("access-control-allow-methods", "*"), ("access-control-allow-headers", "*")] ++
    (route.toList.map fun r => ("allow", r.allowed)))

def answered (result : Except GatewayFault Json) : Http.Response :=
  match result with
  | .ok x => .json 200 x.text
  | .error e => .json e.status e.body.text

/-- Decodes a name in a path; one that is no text is refused. -/
def named (parameter : String) (spelt : List Char) (answer : String → Option Http.Response) :
    Option Http.Response :=
  match Http.decodePiece? spelt with
  | some name => answer name
  | none => some (.plain 400 ("Invalid URL: Invalid UTF-8 in `" ++ parameter ++ "`"))

/-- The response for a resource. There is none if rows cannot be shown. -/
def resource (g : Gateway) (now : Timestamp) (headers : Http.Headers) (body : List UInt8) :
    Route → Option Http.Response
  | .health => some (.plain 200 ("ok - version " ++ version))
  | .rows table =>
    named "table" table fun name =>
      if greatestBody < body.length then
        some (.plain 413 "Failed to buffer the request body: length limit exceeded")
      else
        match g.answerRows now headers body name with
        | .ok none => none
        | .ok (some x) => some (answered (.ok x))
        | .error e => some (answered (.error e))
  | .resolution api => named "api" api fun name => some (answered (g.answerResolution now headers name))
  | .grants table => named "table" table fun name => some (answered (g.answerGrants now headers name))

def dispatch (g : Gateway) (now : Timestamp) (request : Http.Request) (route : Option Route) :
    Option Http.Response :=
  match route with
  | none => some (.empty 404)
  | some route =>
    if !route.methods.contains request.method then some (.empty 405 [("allow", route.allowed)])
    else
      let response := resource g now request.headers request.body route
      if request.method = "HEAD" then response.map Http.Response.head else response

/-- The response to a request for a path, at a time. -/
def serve (g : Gateway) (policy : OriginPolicy) (now : Timestamp) (request : Http.Request)
    (path : List Char) : Option Http.Response :=
  let route := Route.ofPath? path
  let response :=
    if request.method = "OPTIONS" then some (preflight route) else dispatch g now request route
  response.map fun r => r.withHeaders (originHeaders policy request.headers)

def ofConfig (c : ServiceConfig) (backend : Backend) : Gateway :=
  ⟨c.registry backend, c.enforceRowLimit, c.tokens, c.rules, c.dateFormat⟩

/-- A gateway with the address it listens on and its policy for origins. -/
structure Server where
  gateway : Gateway
  address : Net.Address
  port : UInt16
  policy : OriginPolicy

/-- The server that a configuration describes. There is none if the policy for origins has none. -/
def Server.ofConfig (c : ServiceConfig) (backend : Backend) : Except ListenFault (Option Server) := do
  let address ← c.listener.address
  let policy ← c.listener.originPolicy
  return policy.map fun policy => ⟨.ofConfig c backend, address, c.listener.port, policy⟩

end PolicyGate.Gateway
