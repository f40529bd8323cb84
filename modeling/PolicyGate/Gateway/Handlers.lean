import PolicyGate.Caller
import PolicyGate.Gateway.Fault
import PolicyGate.Gateway.Row
import PolicyGate.Http.Message
import PolicyGate.Query.Compile
import PolicyGate.Token.Signed

/-!
What the gateway does for a caller: rows of a table, where a table is kept, and which grants apply to
it. Callers are known by the token in the `authorization` field; nothing is looked up before that.
-/
namespace PolicyGate

structure Gateway where
  registry : Registry
  enforceRowLimit : Bool := false
  tokens : TokenSettings := {}
  rules : PermissionRules := {}
  dateFormat : String := Gateway.defaultDateFormat

namespace Gateway

def scheme : List Char := "Bearer ".toList

/-- A field value that every recipient can read as text. -/
def isPlainField (s : List Char) : Bool :=
  s.all fun c => c == '\t' || (0x20 ≤ c.toNat && c.toNat < 0x7F)

def bearerToken? (headers : Http.Headers) : Option String :=
  (headers.first? "authorization").bind fun field =>
    let cs := field.toList
    if isPlainField cs ∧ scheme.isPrefixOf cs then
      let token := Text.trim (String.ofList (cs.drop scheme.length))
      if token.isEmpty then none else some token
    else none

def authenticate (g : Gateway) (now : Timestamp) (headers : Http.Headers) : Except AuthFault Caller :=
  match bearerToken? headers with
  | none => .error .authenticationRequired
  | some token => do
    let claims ← Token.validate g.tokens token
    g.rules.resolve claims now

/-- The query in a body. A body of blanks holds none. -/
def readQuery (body : List UInt8) : Except GatewayFault (Option Value) :=
  if body.all fun b => Text.isAsciiBlank b.toNat then .ok none
  else
    let input := Text.decodeUtf8 body
    match Json.readInput input with
    | .ok x => .ok (some (Value.ofJson x))
    | .error e => .error (.invalidBody (e.message input))

def rows (g : Gateway) (caller : Caller) (table : String) (query : Option Value) :
    Except GatewayFault (List Document) := do
  let compiled ←
    (Query.compile g.registry g.enforceRowLimit table caller.packages query).mapError .query
  (g.registry.backend.aggregate compiled.resolution.collection compiled.pipeline).mapError .store

/-- Rows as they are shown, with their number. In some formats dates have no text; then there is
nothing to show. -/
def rowsBody? (dateFormat : String) (rows : List Document) : Option Json :=
  (rows.mapM (renderRow? dateFormat)).map fun data =>
    .object [("data", .array data), ("count", .int data.length)]

def resolutionBody (r : Resolution) : Json :=
  .object
    ([("api", .string r.api), ("collection", .string r.collection)] ++
      (r.package.toList.map fun p => ("package", Json.string p)) ++
      [("defaulting", .bool r.usesDefault)])

/-- A grant as it is shown to those to whom it is given: without its predicate. -/
def grantBody (g : Grant) : Json :=
  .object
    ([("table", .string g.table), ("package", .string g.package)] ++
      ((g.rowLimit.filter (· != 0)).toList.map fun (n : Nat) => ("rowLimit", Json.int n)))

def answerRows (g : Gateway) (now : Timestamp) (headers : Http.Headers) (body : List UInt8)
    (table : String) : Except GatewayFault (Option Json) := do
  let caller ← (g.authenticate now headers).mapError .auth
  let query ← readQuery body
  return rowsBody? g.dateFormat (← g.rows caller table query)

def answerResolution (g : Gateway) (now : Timestamp) (headers : Http.Headers) (api : String) :
    Except GatewayFault Json := do
  let caller ← (g.authenticate now headers).mapError .auth
  return resolutionBody (← (g.registry.resolve api caller.packages).mapError .query)

/-- The grants that apply to a table; there must be one. -/
def answerGrants (g : Gateway) (now : Timestamp) (headers : Http.Headers) (table : String) :
    Except GatewayFault Json := do
  let caller ← (g.authenticate now headers).mapError .auth
  let grants ← (g.registry.storedGrants table caller.packages).mapError .query
  if grants.isEmpty then throw (.query .accessDenied)
  else return .array (grants.map grantBody)

end Gateway
end PolicyGate
