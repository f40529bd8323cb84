import PolicyGate.Calendar.Timestamp
import PolicyGate.Double
import PolicyGate.Fields

/-!
Values of documents and queries. Integers, doubles and dates are kinds of their own; documents keep
the order of their entries.
-/
namespace PolicyGate

/-- A value of a document or query. -/
inductive Value where
  | null
  | bool (b : Bool)
  | int (n : Int64)
  | double (x : Double)
  | string (s : String)
  | date (t : Timestamp)
  | array (items : List Value)
  | document (entries : List (String × Value))
deriving Inhabited

/-- The entries of a document. -/
abbrev Document := List (String × Value)

namespace Value

def string? : Value → Option String
  | .string s => some s
  | _ => none

def bool? : Value → Option Bool
  | .bool b => some b
  | _ => none

def document? : Value → Option Document
  | .document d => some d
  | _ => none

def array? : Value → Option (List Value)
  | .array items => some items
  | _ => none

def date? : Value → Option Timestamp
  | .date t => some t
  | _ => none

def isNull : Value → Bool
  | .null => true
  | _ => false

/-- The nearest integer of 64 bits. -/
def saturate (n : Int) : Int64 :=
  if n ≤ Int64.minValue.toInt then Int64.minValue
  else if Int64.maxValue.toInt ≤ n then Int64.maxValue
  else Int64.ofInt n

/-- The integer a number stands for; a double counts if it has no fractional part. -/
def integer? : Value → Option Int64
  | .int n => some n
  | .double x => x.toInt?.map saturate
  | _ => none

/-- The double a number stands for; a large integer is rounded. -/
def double? : Value → Option Double
  | .int n => some (Double.ofInt n.toInt)
  | .double x => some x
  | _ => none

/-- Null, false and zero are not truthy. -/
def isTruthy : Value → Bool
  | .null => false
  | .bool b => b
  | .int n => n != 0
  | .double x => !x.isZero
  | _ => true

mutual

/-- Levels of containers below and including a value; a leaf has none. -/
def depth : Value → Nat
  | .array items => listDepth items + 1
  | .document entries => entryDepth entries + 1
  | _ => 0

def listDepth : List Value → Nat
  | [] => 0
  | v :: rest => max v.depth (listDepth rest)

def entryDepth : List (String × Value) → Nat
  | [] => 0
  | (_, v) :: rest => max v.depth (entryDepth rest)

end

end Value
end PolicyGate
