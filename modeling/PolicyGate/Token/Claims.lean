import PolicyGate.Calendar.Timestamp
import PolicyGate.Json.Basic

/-!
The claims of a token, and the JSON objects that carry them.
-/
namespace PolicyGate

/-- For whom a token is meant: one service, or several. -/
inductive Audience where
  | one (name : String)
  | many (names : List String)
deriving DecidableEq

namespace Audience

def contains (a : Audience) (name : String) : Bool :=
  match a with
  | .one n => n == name
  | .many ns => ns.contains name

def toJson : Audience → Json
  | .one n => .string n
  | .many ns => .array (ns.map Json.string)

end Audience

/-- What a token says about its bearer. Times are seconds since 1970. -/
structure Claims where
  subject : String
  permissions : List String := []
  issuedAt : Int := 0
  expires : Option Int := none
  audience : Audience
  issuer : String := ""
deriving DecidableEq

namespace Claims

/-- The expiry as an instant, if there is one that the calendar covers. -/
def expiresAt (c : Claims) : Option Timestamp :=
  c.expires.bind fun e =>
    let year := (Timestamp.mk e 0).date.year
    if Civil.leastYear ≤ year ∧ year ≤ Civil.greatestYear then some ⟨e, 0⟩ else none

/-- The members of the object that carries the claims. -/
def members (c : Claims) : Fields Json :=
  [("sub", .string c.subject), ("permissions", .array (c.permissions.map Json.string)),
    ("iat", .int c.issuedAt)] ++
    (c.expires.toList.map fun e => ("exp", Json.int e)) ++
    [("aud", c.audience.toJson), ("iss", .string c.issuer)]

def toJson (c : Claims) : Json := .object c.members

/-- The names of the claims that are read, in the order in which a list gives them. -/
def names : List String := ["sub", "permissions", "iat", "exp", "aud", "iss"]

def string? : Json → Option String
  | .string s => some s
  | _ => none

def strings? : Json → Option (List String)
  | .array items => items.mapM string?
  | _ => none

/-- An integer of 64 bits. -/
def seconds? : Json → Option Int
  | .int n => if Int64.minValue.toInt ≤ n ∧ n ≤ Int64.maxValue.toInt then some n else none
  | _ => none

def expiry? : Json → Option (Option Int)
  | .null => some none
  | x => (seconds? x).map some

def audience? : Json → Option Audience
  | .string s => some (.one s)
  | x => (strings? x).map .many

/-- A claim, or what stands for it if it is missing. -/
def claimOr (members : Fields Json) (name : String) (default : α) (read : Json → Option α) :
    Option α :=
  match members.get? name with
  | some x => read x
  | none => some default

/-- The claims that the members of an object spell. Subject and audience are required. -/
def ofMembers? (members : Fields Json) : Option Claims := do
  let subject ← (members.get? "sub").bind string?
  let permissions ← claimOr members "permissions" [] strings?
  let issuedAt ← claimOr members "iat" 0 seconds?
  let expires ← claimOr members "exp" none expiry?
  let audience ← (members.get? "aud").bind audience?
  let issuer ← claimOr members "iss" "" string?
  return { subject, permissions, issuedAt, expires, audience, issuer }

/-- The claims that a list spells, in their order; the last one may be missing. -/
def ofItems? (items : List Json) : Option Claims :=
  if items.length ≤ names.length then ofMembers? (names.zip items) else none

def ofJson? : Json → Option Claims
  | .object members => ofMembers? members
  | .array items => ofItems? items
  | _ => none

end Claims
end PolicyGate
