import PolicyGate.Config.Service
import PolicyGate.Json.Typed

/-!
Reading the configuration. The settings of the listener stand beside the others; they are looked at
once the whole object has been read.
-/
namespace PolicyGate.ServiceConfig

/-! The settings of tokens: an object, or a list of the three in order. -/

def tokenSetter? (name : String) : Option (Json.Setter TokenSettings) :=
  let text := Json.scalar "a string" Json.string?
  match name with
  | "secret" => some (Json.assign text fun secret c => { c with secret })
  | "issuer" => some (Json.assign text fun issuer c => { c with issuer })
  | "audience" => some (Json.assign text fun audience c => { c with audience })
  | _ => none

/-- Settings in order; the last ones may be missing. -/
def tokensOfList (texts : List String) : TokenSettings :=
  let usual : TokenSettings := {}
  ⟨texts[0]?.getD usual.secret, texts[1]?.getD usual.issuer, texts[2]?.getD usual.audience⟩

def readTokens (s : Json.Input) : Except Json.Fault (TokenSettings × Json.Input) :=
  match Json.skipBlanks s with
  | some '{' :: rest => do
    let (made, rest) ← Json.objectBody (Json.settle tokenSetter? fun _ => Json.skimmed) ⟨{}, []⟩ rest
    return (made.value, rest)
  | some '[' :: rest => (Json.stringItems 3 true rest).map fun (texts, rest) => (tokensOfList texts, rest)
  | s => Json.scalar "struct JwtConfig" (fun _ => none) s

/-! The other settings. Members that are no such setting are kept. -/

/-- A configuration with the members that are still to be looked at, in their order. -/
structure Draft where
  config : ServiceConfig := {}
  later : List (String × Json) := []

def setter? (name : String) : Option (Json.Setter Draft) :=
  let put (α : Type) (read : Json.Input → Json.Outcome α) (change : α → ServiceConfig → ServiceConfig) :
      Option (Json.Setter Draft) :=
    some (Json.assign read fun a d => { d with config := change a d.config })
  let text := put String (Json.scalar "a string" Json.string?)
  match name with
  | "jwt" => put _ readTokens fun tokens c => { c with tokens }
  | "api_scope_prefix" => text fun p c => { c with rules := { c.rules with scopePrefix := p } }
  | "never_expires_permission" => text fun p c => { c with rules := { c.rules with neverExpires := p } }
  | "enforce_row_limit" =>
    put _ (Json.scalar "a boolean" Json.bool?) fun b c => { c with enforceRowLimit := b }
  | "seed_path" =>
    put _ (Json.scalar "path string" Json.optionalString?) fun p c => { c with seedPath := p }
  | "security_collection" => text fun name c => { c with grantCollection := name }
  | "meta_collection" => text fun name c => { c with mappingCollection := name }
  | "date_format" => text fun format c => { c with dateFormat := format }
  | _ => none

def keep (name : String) : Json.Setter Draft :=
  Json.assign (Json.value (Json.nestingLimit - 1)) fun x d => { d with later := d.later ++ [(name, x)] }

/-! The settings of the listener. -/

def listenedText : Json → Except Json.Cause String
  | .string s => .ok s
  | x => .error (.wrongType x.described "a string")

def listenedPort : Json → Except Json.Cause UInt16
  | .int n =>
    if 0 ≤ n ∧ n < 65536 then .ok (UInt16.ofNat n.toNat)
    else .error (.wrongValue (Json.int n).described "u16")
  | x => .error (.wrongType x.described "u16")

def listenedOrigins : Json → Except Json.Cause (List String)
  | .array items => items.mapM listenedText
  | x => .error (.wrongType x.described "a sequence")

/-- Takes over a member if it is a setting of the listener. -/
def listen (made : Json.Settled Listener) (name : String) (x : Json) :
    Except Json.Cause (Json.Settled Listener) := do
  let l := made.value
  let once (change : Except Json.Cause Listener) : Except Json.Cause (Json.Settled Listener) := do
    if made.given.contains name then throw (.duplicateField name)
    return ⟨← change, name :: made.given⟩
  match name with
  | "host" => once ((listenedText x).map fun host => { l with host })
  | "port" => once ((listenedPort x).map fun port => { l with port })
  | "cors_origins" => once ((listenedOrigins x).map fun origins => { l with origins })
  | _ => return made

/-! The configuration. -/

def readObject (s : Json.Input) : Except Json.Fault (ServiceConfig × Json.Input) :=
  match Json.skipBlanks s with
  | some '{' :: rest => do
    let (made, rest) ← Json.objectBody (Json.settle setter? keep) ⟨{}, []⟩ rest
    let { config, later } := made.value
    match later.foldlM (fun made (name, x) => listen made name x) ⟨{}, []⟩ with
    | .ok listener => return ({ config with listener := listener.value }, rest)
    | .error cause => throw ⟨cause, rest, 0⟩
  | s => Json.scalar "struct ServiceConfig" (fun _ => none) s

def readInput (s : Json.Input) : Except Json.Fault ServiceConfig := do
  let (c, rest) ← readObject s
  Json.finish c rest

def read (text : String) : Except ConfigFault ServiceConfig :=
  let input := Json.Input.ofString text
  (readInput input).mapError fun e => .unparsable (e.message input)

/-- The fault of a list of token settings that is too long. -/
def surplusMessage (x : Json) : String :=
  let given := match x with
    | .object members =>
      match Fields.get? members "jwt" with
      | some (.array items) => items.length
      | _ => 0
    | _ => 0
  "invalid length " ++ String.ofList (Text.decimal given) ++ ", expected fewer elements in array"

/-- The configuration that a JSON value describes, or what is wrong with the value. Only surplus items
trail in the text of a value. -/
def ofJson (x : Json) : Except String ServiceConfig :=
  (readInput (.ofString x.text)).mapError fun e =>
    match e.cause with
    | .trailingCharacters => surplusMessage x
    | cause => cause.message

end PolicyGate.ServiceConfig
