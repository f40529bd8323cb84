import PolicyGate.Json.Reader

/-!
Keys as JSON objects. A key tells what it is for and of which type it is; each type has members of its
own. Members that nobody knows may stand beside them.
-/
namespace PolicyGate.Key

/-- The members of an object as they were written; a name may come again. -/
abbrev Entries := List (String × Json)

/-- Whether a value may stand under a name. -/
abbrev Accepts := Json → Bool

def text : Accepts
  | .string _ => true
  | _ => false

def texts : Accepts
  | .array items => items.all text
  | _ => false

def orNull (accepts : Accepts) : Accepts
  | .null => true
  | x => accepts x

/-- One of some names. It may also stand as the name of a member that says nothing. -/
def oneOf (names : List String) (empty : Accepts) : Accepts
  | .string name => names.contains name
  | .object [(name, x)] => names.contains name && empty x
  | _ => false

def isNull : Accepts
  | .null => true
  | _ => false

/-- Null, or an object without members. -/
def isVoid : Accepts
  | .null => true
  | .object [] => true
  | _ => false

/-- What keys are used with. -/
def algorithms : List String :=
  ["HS256", "HS384", "HS512", "ES256", "ES384", "RS256", "RS384", "RS512", "PS256", "PS384", "PS512",
    "EdDSA", "RSA1_5", "RSA-OAEP", "RSA-OAEP-256"]

def curves : List String := ["P-256", "P-384", "P-521", "Ed25519"]

/-- Members that keys of every type may have. -/
def common : List (String × Accepts) :=
  [("use", text), ("key_ops", texts), ("alg", oneOf algorithms isVoid), ("kid", text), ("x5u", text),
    ("x5c", texts), ("x5t", text), ("x5t#S256", text)]

/-- The types of keys, each with the members that it must have. -/
def forms : List (List (String × Accepts)) :=
  let type (name : String) : String × Accepts := ("kty", oneOf [name] isNull)
  let curve : String × Accepts := ("crv", oneOf curves isNull)
  [[type "EC", curve, ("x", text), ("y", text)], [type "RSA", ("n", text), ("e", text)],
    [type "oct", ("k", text)], [type "OKP", curve, ("x", text)]]

def valuesOf (entries : Entries) (name : String) : List Json :=
  (entries.filter fun (other, _) => other == name).map Prod.snd

/-- A member that may be left out but not repeated. -/
def mayHave (entries : Entries) : String × Accepts → Bool
  | (name, accepts) =>
    match valuesOf entries name with
    | [] => true
    | [x] => orNull accepts x
    | _ => false

def mustHave (entries : Entries) : String × Accepts → Bool
  | (name, accepts) =>
    match valuesOf entries name with
    | [x] => accepts x
    | _ => false

/-- The members make a key of some type. -/
def isKey (entries : Entries) : Bool :=
  common.all (mayHave entries) && forms.any fun form => form.all (mustHave entries)

/-- The members of an object, whose values may nest at most `levels` deep. -/
def entries (levels : Nat) (s : Json.Input) : Json.Outcome Entries :=
  let member (made : Entries) (name : String) (s : Json.Input) : Json.Outcome Entries :=
    ((Json.colon s).bind (Json.value levels)).map fun (x, rest) => ((name, x) :: made, rest)
  Json.objectBody member [] s

end PolicyGate.Key
