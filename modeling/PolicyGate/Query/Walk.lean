import PolicyGate.Query.Fault
import PolicyGate.Value.Basic

/-!
Walking a tree from an untrusted source: keys are checked, leaves are replaced from left to right,
and a tree that is nested too deep is refused. Replacing may carry a state, which is kept when the
walk fails.
-/
namespace PolicyGate.Query

/-- A computation with a state that outlives its faults. -/
abbrev Walk (σ : Type) := ExceptT QueryFault (StateM σ)

/-- How many levels below the root a walk goes. -/
def maxDepth : Nat := 256

mutual

/-- Replaces the leaves of a value that stands `depth` levels below the root. -/
def walk {σ : Type} (isAllowed : String → Bool) (replace : Value → Walk σ Value) (depth : Nat) :
    Value → Walk σ Value
  | .array items =>
    if maxDepth < depth then throw (.nestingTooDeep maxDepth)
    else do return .array (← walkItems isAllowed replace (depth + 1) items)
  | .document entries =>
    if maxDepth < depth then throw (.nestingTooDeep maxDepth)
    else do return .document (← walkEntries isAllowed replace (depth + 1) [] entries)
  | leaf => if maxDepth < depth then throw (.nestingTooDeep maxDepth) else replace leaf

def walkItems {σ : Type} (isAllowed : String → Bool) (replace : Value → Walk σ Value) (depth : Nat) :
    List Value → Walk σ (List Value)
  | [] => pure []
  | v :: rest => do
    let v ← walk isAllowed replace depth v
    return v :: (← walkItems isAllowed replace depth rest)

/-- Inserts the new entries into a document. -/
def walkEntries {σ : Type} (isAllowed : String → Bool) (replace : Value → Walk σ Value) (depth : Nat)
    (made : Document) : List (String × Value) → Walk σ Document
  | [] => pure made
  | (key, v) :: rest =>
    if isAllowed key then do
      let v ← walk isAllowed replace depth v
      walkEntries isAllowed replace depth (Fields.insert key v made) rest
    else throw (.unsafeOperator key)

end

end PolicyGate.Query
