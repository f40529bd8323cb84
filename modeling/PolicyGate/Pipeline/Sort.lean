import PolicyGate.Store.Fault
import PolicyGate.Value.Order
import PolicyGate.Value.Path

/-!
Sorting documents by the values at some paths. The sort is stable; a missing value sorts like null.
-/
namespace PolicyGate.Pipeline

/-- A path to sort by, upwards or downwards. -/
structure SortKey where
  path : String
  ascending : Bool
deriving DecidableEq

/-- The order of two values of which either may be missing. -/
def compareOptional : Option Value → Option Value → Ordering
  | none, none => .eq
  | none, some v => if v.isNull then .eq else .lt
  | some v, none => if v.isNull then .eq else .gt
  | some a, some b => a.sortCompare b

def SortKey.compare (k : SortKey) (a b : Document) : Ordering :=
  let o := compareOptional (a.resolve? k.path) (b.resolve? k.path)
  if k.ascending then o else o.swap

/-- The order by the first key that tells the documents apart. -/
def compareBy (keys : List SortKey) (a b : Document) : Ordering :=
  keys.foldr (fun k later => (k.compare a b).then later) .eq

/-- Puts a document behind all that are not greater, into a list in descending order. -/
def insertDescending (keys : List SortKey) (d : Document) : List Document → List Document
  | [] => [d]
  | last :: rest =>
    if compareBy keys d last = .lt then last :: insertDescending keys d rest else d :: last :: rest

def sortBy (keys : List SortKey) (docs : List Document) : List Document :=
  (docs.foldl (fun sorted d => insertDescending keys d sorted) []).reverse

/-- One entry of a sort specification. -/
def sortKey (path : String) (direction : Value) : Except StoreFault SortKey :=
  if direction.integer? = some 1 then .ok ⟨path, true⟩
  else if direction.integer? = some (-1) then .ok ⟨path, false⟩
  else .error (.shape "$sort" "directions must be 1 or -1")

def sortKeys (spec : Value) : Except StoreFault (List SortKey) :=
  match spec with
  | .document [] => .error (.shape "$sort" "expects a non-empty document")
  | .document entries => entries.mapM fun (path, direction) => sortKey path direction
  | _ => .error (.shape "$sort" "expects a non-empty document")

end PolicyGate.Pipeline
