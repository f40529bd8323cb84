import PolicyGate.Cli.Arguments
import PolicyGate.Cli.Fault
import PolicyGate.Config.Read
import PolicyGate.Files.Path
import PolicyGate.Gateway.Serve

/-!
What commands do, given what they may look at. Each ends with data to be printed or with a fault.
-/
namespace PolicyGate.Cli

/-- What a command may look at. -/
structure Surroundings where
  file : (path : String) → Except String String
  environment : (name : String) → Option String
  input : String
  now : Timestamp

/-- Places the seed file of a configuration that was read from a file. -/
def placeSeed (path : String) (c : ServiceConfig) : ServiceConfig :=
  match c.seedPath, Files.parent? path with
  | some seed, some directory =>
    if Files.isRelative seed then { c with seedPath := some (Files.join directory seed) } else c
  | _, _ => c

def configIn (s : Surroundings) : (path : Option String) → Except ConfigFault ServiceConfig
  | none => .ok {}
  | some path =>
    match s.file path with
    | .error reason => .error (.unreadable path reason)
    | .ok text => (ServiceConfig.read text).map (placeSeed path)

def loadConfig (s : Surroundings) (path : Option String) : Except ConfigFault ServiceConfig := do
  let c ← configIn s path
  let c ← c.override s.environment
  c.check
  return c

/-- The store with the data of a seed file, if there is one. -/
def openStore (s : Surroundings) : (seed : Option String) → Except StoreFault Store
  | none => .ok {}
  | some path =>
    match (s.file path).bind Json.read with
    | .error reason => .error (.seed (path ++ ": " ++ reason))
    | .ok seed => Store.ofSeed seed

/-- The query in the input. Input of white space holds none. -/
def readQuery (input : String) : Except CommandFault (Option Value) :=
  if (Text.trim input).isEmpty then .ok none
  else
    match Json.read input with
    | .ok x => .ok (some (Value.ofJson x))
    | .error message => .error (.io ("JSON error: " ++ message))

def strings (xs : List String) : Json := .array (xs.map Json.string)

/-- Compiles the query in the input. -/
def compile (s : Surroundings) (config : Option String) (table : String) (permissions : List String) :
    Except CommandFault Json := do
  let c ← (loadConfig s config).mapError .config
  let query ← readQuery s.input
  let store ← (openStore s c.seedPath).mapError .store
  let caller := c.rules.caller Command.usualSubject permissions
  let compiled ←
    (Query.compile (c.registry store.backend) c.enforceRowLimit table caller.packages query).mapError
      .query
  return .object
    [("table", .string compiled.table), ("packages", strings caller.packages),
      ("collection", .string compiled.resolution.collection),
      ("usingDefaultCollection", .bool compiled.resolution.usesDefault),
      ("pipeline", .array (compiled.pipeline.map Document.toJson))]

/-- Issues a token, and reads it again before it is shown. -/
def token (s : Surroundings) (config : Option String) (subject : String) (permissions : List String)
    (minutes : Option Int) : Except CommandFault Json := do
  let c ← (loadConfig s config).mapError .config
  let issued := Token.issue c.tokens s.now subject permissions (minutes.map (· * 60))
  let text := Token.sign c.tokens issued
  let claims ← (Token.validate c.tokens text).mapError .auth
  let expiry := claims.expiresAt.bind (DateFormat.render? "%+")
  return .object
    [("token", .string text), ("subject", .string claims.subject),
      ("permissions", strings claims.permissions),
      ("expiresAt", match expiry with | some t => .string t | none => .null)]

def server (s : Surroundings) (config : Option String) : Except CommandFault Gateway.Server := do
  let c ← (loadConfig s config).mapError .config
  let store ← (openStore s c.seedPath).mapError .store
  match Gateway.Server.ofConfig c store.backend with
  | .ok (some server) => return server
  | .ok none => throw (.serve "the origin '*' cannot be listed")
  | .error e => throw (.serve e.message)

structure Outcome where
  exitCode : UInt32
  output : Json
  /-- What is said beside the output. -/
  complaint : Option String

def Outcome.ofResult : Except CommandFault Json → Outcome
  | .ok data => ⟨0, .object [("status", .string "ok"), ("data", data)], none⟩
  | .error e =>
    ⟨1, .object [("status", .string "error"), ("code", .string e.code),
      ("message", .string e.message)], some e.display⟩

end PolicyGate.Cli
