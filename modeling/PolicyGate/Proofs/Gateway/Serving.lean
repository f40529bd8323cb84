import PolicyGate.Gateway.Serve

/-!
From the answer to the response: what the client gets for grants, and what if rows, a mapping or grants
are refused.
-/
namespace PolicyGate.Gateway

/-- The name of a table or an API as a route spells it. -/
def Route.spelt? : Route → Option (List Char)
  | .health => none
  | .rows table => some table
  | .resolution api => some api
  | .grants table => some table

/-- The request is for the resource of a name: the method is one of the resource, and the body is not too
long to be read. -/
structure Reaches (request : Http.Request) (path : List Char) (route : Route) (name : String) :
    Prop where
  found : Route.ofPath? path = some route
  named : route.spelt?.bind Http.decodePiece? = some name
  allowed : request.method ∈ route.methods
  short : request.body.length ≤ greatestBody

/-- What is asked for under the name is refused with the fault. -/
def Refuses (g : Gateway) (now : Timestamp) (request : Http.Request) (name : String)
    (fault : GatewayFault) : Route → Prop
  | .health => False
  | .rows _ => g.answerRows now request.headers request.body name = .error fault
  | .resolution _ => g.answerResolution now request.headers name = .error fault
  | .grants _ => g.answerGrants now request.headers name = .error fault

/-- The response to a request once there is an answer. -/
def reply (policy : OriginPolicy) (request : Http.Request) (result : Except GatewayFault Json) :
    Http.Response :=
  let response := answered result
  (if request.method = "HEAD" then response.head else response).withHeaders
    (originHeaders policy request.headers)

/-- The response to a request that is refused. -/
def refusal (policy : OriginPolicy) (request : Http.Request) (fault : GatewayFault) : Http.Response :=
  let response := answered (.error fault)
  (if request.method = "HEAD" then response.head else response).withHeaders
    (originHeaders policy request.headers)

theorem reply_status (policy : OriginPolicy) (request : Http.Request)
    (result : Except GatewayFault Json) :
    (reply policy request result).status =
      match result with
      | .ok _ => 200
      | .error fault => fault.status := by
  unfold reply
  split <;> cases result <;> rfl

theorem reply_body (policy : OriginPolicy) {request : Http.Request}
    (result : Except GatewayFault Json) (whole : request.method ≠ "HEAD") :
    (reply policy request result).body = (answered result).body := by
  simp only [reply, if_neg whole]
  rfl

theorem refusal_status (policy : OriginPolicy) (request : Http.Request) (fault : GatewayFault) :
    (refusal policy request fault).status = fault.status :=
  reply_status policy request (.error fault)

theorem refusal_body (policy : OriginPolicy) {request : Http.Request} (fault : GatewayFault)
    (whole : request.method ≠ "HEAD") :
    (refusal policy request fault).body = fault.body.text :=
  reply_body policy (.error fault) whole

variable {g : Gateway} {now : Timestamp} {request : Http.Request} {path : List Char} {route : Route}
  {name : String} {fault : GatewayFault}

theorem resource_refused (reached : Reaches request path route name)
    (refused : Refuses g now request name fault route) :
    resource g now request.headers request.body route = some (answered (.error fault)) := by
  have short : ¬ greatestBody < request.body.length := Nat.not_lt.mpr reached.short
  cases route with
  | health => cases refused
  | rows spelt =>
    have named : Http.decodePiece? spelt = some name := reached.named
    have failed : g.answerRows now request.headers request.body name = .error fault := refused
    simp only [resource, Gateway.named, named, if_neg short, failed]
  | resolution spelt =>
    have named : Http.decodePiece? spelt = some name := reached.named
    have failed : g.answerResolution now request.headers name = .error fault := refused
    simp only [resource, Gateway.named, named, failed]
  | grants spelt =>
    have named : Http.decodePiece? spelt = some name := reached.named
    have failed : g.answerGrants now request.headers name = .error fault := refused
    simp only [resource, Gateway.named, named, failed]

theorem not_options_of_allowed (allowed : request.method ∈ route.methods) :
    request.method ≠ "OPTIONS" := by
  intro options
  rw [options] at allowed
  cases route <;> simp [Route.methods] at allowed

theorem serve_of_resource (policy : OriginPolicy) (found : Route.ofPath? path = some route)
    (allowed : request.method ∈ route.methods) {result : Except GatewayFault Json}
    (made : resource g now request.headers request.body route = some (answered result)) :
    serve g policy now request path = some (reply policy request result) := by
  have own : ¬ (!route.methods.contains request.method) = true := by simpa using allowed
  rw [serve, found]
  simp only [if_neg (not_options_of_allowed allowed), dispatch, if_neg own, made]
  unfold reply
  split <;> rfl

theorem serve_refused (policy : OriginPolicy) (reached : Reaches request path route name)
    (refused : Refuses g now request name fault route) :
    serve g policy now request path = some (refusal policy request fault) :=
  serve_of_resource policy reached.found reached.allowed (resource_refused reached refused)

/-- Neither the body nor its length has a part in what is told of grants. -/
theorem serve_grants (policy : OriginPolicy) {spelt : List Char}
    (found : Route.ofPath? path = some (.grants spelt)) (named : Http.decodePiece? spelt = some name)
    (allowed : request.method ∈ (Route.grants spelt).methods) :
    serve g policy now request path =
      some (reply policy request (g.answerGrants now request.headers name)) := by
  apply serve_of_resource policy found allowed
  simp only [resource, Gateway.named, named]

end PolicyGate.Gateway
