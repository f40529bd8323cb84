import PolicyGate.Regex.Match
import PolicyGate.Regex.Pattern
import PolicyGate.Store.Fault
import PolicyGate.Value.Order

/-!
Conditions on the value that a field path leads to, which may be missing. Conditions on an array hold
if they hold for one of its items.
-/
namespace PolicyGate.Filter

def isOperatorName (key : String) : Bool := key.toList.head? == some '$'

/-- A document that is not empty and has operators for all its keys. -/
def isOperators (d : Document) : Bool := !d.isEmpty && d.all fun (key, _) => isOperatorName key

/-- Equality. A missing value equals null; an array equals what it is or what it contains. -/
def equals (actual : Option Value) (expected : Value) : Bool :=
  match actual with
  | none => expected.isNull
  | some (.array items) =>
    items.any (·.alike expected) || (expected.array?.isSome && (Value.array items).same expected)
  | some v => v.alike expected

/-- Whether a value, or an item of an array, compares with `bound` in an accepted way. -/
def compares (accept : Ordering → Bool) (actual : Option Value) (bound : Value) : Bool :=
  match actual with
  | none => false
  | some (.array items) => items.any fun v => (v.compare? bound).any accept
  | some v => (v.compare? bound).any accept

/-- Membership in a list of candidates. -/
def isIn (actual : Option Value) (name : String) (candidates : Value) : Except StoreFault Bool :=
  match candidates with
  | .array vs => .ok (vs.any (equals actual))
  | _ => .error (.shape name "expects an array")

def regexFlags (options : String) : Regex.Flags :=
  let cs := options.toList
  { ignoreCase := cs.contains 'i', multiLine := cs.contains 'm', dotAll := cs.contains 's' }

def pattern (operand : Value) (options : String) : Except StoreFault Regex :=
  match operand with
  | .string p =>
    match Regex.compile? (regexFlags options) p with
    | some r => .ok r
    | none => .error (.shape "$regex" "pattern does not compile")
  | _ => .error (.shape "$regex" "expects a string pattern")

/-- Whether a string, or a string in an array, holds a match of a pattern. -/
def matchesPattern (actual : Option Value) (r : Regex) : Bool :=
  match actual with
  | some (.string s) => r.isMatch s
  | some (.array items) => (items.filterMap Value.string?).any r.isMatch
  | _ => false

def options (operators : Document) : String :=
  ((Fields.get? operators "$options").bind Value.string?).getD ""

/-- The operators whose operand is no condition itself. -/
def appliesTo (actual : Option Value) (name : String) (operand : Value) (options : String) :
    Except StoreFault Bool :=
  match name with
  | "$eq" => .ok (equals actual operand)
  | "$ne" => .ok (!equals actual operand)
  | "$gt" => .ok (compares (· == .gt) actual operand)
  | "$gte" => .ok (compares (· != .lt) actual operand)
  | "$lt" => .ok (compares (· == .lt) actual operand)
  | "$lte" => .ok (compares (· != .gt) actual operand)
  | "$in" => isIn actual name operand
  | "$nin" => (isIn actual name operand).map not
  | "$exists" => .ok (actual.isSome == operand.isTruthy)
  | "$regex" => (pattern operand options).map (matchesPattern actual)
  | _ => .error (.operator name)

end PolicyGate.Filter
