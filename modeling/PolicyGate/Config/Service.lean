import PolicyGate.Caller
import PolicyGate.Config.Listener
import PolicyGate.Gateway.Row
import PolicyGate.Grants.Registry
import PolicyGate.Token.Signed

/-!
The configuration of the service: its defaults, its text, the overrides that the environment may give,
and the checks it has to pass.
-/
namespace PolicyGate

/-- Every setting has a default. -/
structure ServiceConfig where
  listener : Listener := {}
  tokens : TokenSettings := {}
  rules : PermissionRules := {}
  enforceRowLimit : Bool := false
  /-- The file with the data that the store opens with. -/
  seedPath : Option String := none
  grantCollection : String := "security"
  mappingCollection : String := "meta"
  dateFormat : String := Gateway.defaultDateFormat
deriving DecidableEq

inductive ConfigFault where
  | unreadable (path reason : String)
  | unparsable (reason : String)
  | invalid (reason : String)
deriving DecidableEq

def ConfigFault.message : ConfigFault → String
  | .unreadable path reason => "Failed to read config " ++ path ++ ": " ++ reason
  | .unparsable reason => "Invalid config JSON: " ++ reason
  | .invalid reason => "Invalid config: " ++ reason

namespace ServiceConfig

def toJson (c : ServiceConfig) : Json :=
  .object
    [("host", .string c.listener.host), ("port", .int c.listener.port.toNat),
      ("cors_origins", .array (c.listener.origins.map Json.string)),
      ("jwt", .object
        [("secret", .string c.tokens.secret), ("issuer", .string c.tokens.issuer),
          ("audience", .string c.tokens.audience)]),
      ("api_scope_prefix", .string c.rules.scopePrefix),
      ("never_expires_permission", .string c.rules.neverExpires),
      ("enforce_row_limit", .bool c.enforceRowLimit),
      ("seed_path", match c.seedPath with | some path => .string path | none => .null),
      ("security_collection", .string c.grantCollection),
      ("meta_collection", .string c.mappingCollection), ("date_format", .string c.dateFormat)]

def portVariable : String := "ROWGATE_PORT"

def secretVariable : String := "ROWGATE_JWT_SECRET"

def port? (text : String) : Option UInt16 :=
  (Text.natural? 65535 (Text.trim text).toList).map UInt16.ofNat

/-- Takes over what the environment gives. -/
def override (c : ServiceConfig) (environment : String → Option String) :
    Except ConfigFault ServiceConfig := do
  let port ← match environment portVariable with
    | none => pure c.listener.port
    | some text =>
      match port? text with
      | some port => pure port
      | none => throw (.invalid (portVariable ++ " is not a port: '" ++ text ++ "'"))
  let secret := (environment secretVariable).getD c.tokens.secret
  return { c with listener := { c.listener with port }, tokens := { c.tokens with secret } }

def check (c : ServiceConfig) : Except ConfigFault Unit := do
  if c.tokens.secret.isEmpty then throw (.invalid "jwt.secret must not be empty")
  if c.rules.scopePrefix.isEmpty then throw (.invalid "api_scope_prefix must not be empty")
  if c.grantCollection.isEmpty || c.mappingCollection.isEmpty then
    throw (.invalid "security_collection and meta_collection must not be empty")
  c.listener.check.mapError fun e => .invalid e.message
  if (DateFormat.read? c.dateFormat).isNone then
    throw (.invalid ("date_format is not a valid format string: '" ++ c.dateFormat ++ "'"))

def registry (c : ServiceConfig) (backend : Backend) : Registry :=
  ⟨backend, c.grantCollection, c.mappingCollection⟩

end ServiceConfig
end PolicyGate
