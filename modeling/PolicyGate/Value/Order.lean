import PolicyGate.Value.Basic

/-!
Equality and order of values. `same` is equality with the numerical equality of doubles, `alike`
also takes `1` and `1.0` for equal, `compare?` orders values of one kind, and `sortCompare` orders
all values by kind first.
-/
namespace PolicyGate.Value

mutual

/-- Equality of kind and content. Doubles compare as numbers, so a NaN differs from itself. -/
def same : Value → Value → Bool
  | .null, .null => true
  | .bool a, .bool b => a == b
  | .int a, .int b => a == b
  | .double a, .double b => a.equal b
  | .string a, .string b => a == b
  | .date a, .date b => a == b
  | .array a, .array b => sameItems a b
  | .document a, .document b => sameEntries a b
  | _, _ => false

def sameItems : List Value → List Value → Bool
  | [], [] => true
  | a :: as, b :: bs => a.same b && sameItems as bs
  | _, _ => false

/-- Documents are equal entry by entry, in order. -/
def sameEntries : List (String × Value) → List (String × Value) → Bool
  | [], [] => true
  | (k, a) :: as, (l, b) :: bs => k == l && a.same b && sameEntries as bs
  | _, _ => false

end

/-- The order of two values of one kind. Integers compare exactly, an integer against a double as
doubles. Containers, NaN and values of different kinds are not comparable. -/
def compare? : Value → Value → Option Ordering
  | .null, .null => some .eq
  | .bool a, .bool b => some (compare a b)
  | .string a, .string b => some (compare a b)
  | .date a, .date b => some (a.compare b)
  | .int a, .int b => some (compare a.toInt b.toInt)
  | a, b =>
    match a.double?, b.double? with
    | some x, some y => x.compare? y
    | _, _ => none

/-- The place of a kind in the order of all values. -/
def rank : Value → Nat
  | .null => 0
  | .int _ => 1
  | .double _ => 1
  | .string _ => 2
  | .document _ => 3
  | .array _ => 4
  | .bool _ => 5
  | .date _ => 6

/-- The order for sorting: by kind, then within the kind; values not comparable there are ties. -/
def sortCompare (a b : Value) : Ordering :=
  (compare a.rank b.rank).then ((a.compare? b).getD .eq)

def isNumber (v : Value) : Bool := v.rank == 1

/-- Equality that takes numbers of both kinds for equal if they compare so. -/
def alike (a b : Value) : Bool :=
  if a.isNumber && b.isNumber then a.compare? b == some .eq else a.same b

end PolicyGate.Value
