import PolicyGate.Filter.Operator
import PolicyGate.Value.Path

/-!
Matching documents against filters. A filter is a document: its entries must all hold, and are looked
at in order until one does not. A fault in an entry that is not looked at goes unnoticed.
-/
namespace PolicyGate.Filter

/-- The operand of a connective must be an array of documents. -/
def checkClauses (name : String) (operand : Value) : Except StoreFault Unit :=
  match operand with
  | .array items =>
    if items.all (·.document?.isSome) then .ok () else .error (.shape name "expects documents")
  | _ => .error (.shape name "expects an array")

mutual

/-- Whether a value satisfies all operators. -/
def operatorsHold (actual : Option Value) (options : String) :
    (operators : List (String × Value)) → Except StoreFault Bool
  | [] => .ok true
  | (name, operand) :: rest =>
    if name = "$options" then operatorsHold actual options rest
    else
      match operatorHolds actual options name operand with
      | .error e => .error e
      | .ok false => .ok false
      | .ok true => operatorsHold actual options rest

def operatorHolds (actual : Option Value) (options name : String) :
    (operand : Value) → Except StoreFault Bool
  | .document inner =>
    if name = "$not" then
      if isOperators inner then (operatorsHold actual (Filter.options inner) inner).map not
      else .error (.shape name "expects an operator document")
    else appliesTo actual name (.document inner) options
  | operand =>
    if name = "$not" then .error (.shape name "expects an operator document")
    else appliesTo actual name operand options

end

/-- Whether a value satisfies the condition given for its path. -/
def fieldHolds (actual : Option Value) (condition : Value) : Except StoreFault Bool :=
  match condition with
  | .document operators =>
    if isOperators operators then operatorsHold actual (options operators) operators
    else .ok (equals actual condition)
  | _ => .ok (equals actual condition)

mutual

def holds (d : Document) : (filter : List (String × Value)) → Except StoreFault Bool
  | [] => .ok true
  | (key, condition) :: rest =>
    match entryHolds d key condition with
    | .error e => .error e
    | .ok false => .ok false
    | .ok true => holds d rest

/-- Whether a document satisfies one entry: a connective, or a condition on a path. -/
def entryHolds (d : Document) (key : String) : (condition : Value) → Except StoreFault Bool
  | .array clauses =>
    if key = "$and" then (checkClauses key (.array clauses)).bind fun _ => allHold d clauses
    else if key = "$or" then (checkClauses key (.array clauses)).bind fun _ => anyHolds d clauses
    else if key = "$nor" then
      (checkClauses key (.array clauses)).bind fun _ => (anyHolds d clauses).map not
    else if isOperatorName key then .error (.operator key)
    else fieldHolds (d.resolve? key) (.array clauses)
  | condition =>
    if key = "$and" ∨ key = "$or" ∨ key = "$nor" then .error (.shape key "expects an array")
    else if isOperatorName key then .error (.operator key)
    else fieldHolds (d.resolve? key) condition

def allHold (d : Document) : (clauses : List Value) → Except StoreFault Bool
  | [] => .ok true
  | .document clause :: rest =>
    match holds d clause with
    | .error e => .error e
    | .ok false => .ok false
    | .ok true => allHold d rest
  | _ :: rest => allHold d rest

def anyHolds (d : Document) : (clauses : List Value) → Except StoreFault Bool
  | [] => .ok false
  | .document clause :: rest =>
    match holds d clause with
    | .error e => .error e
    | .ok true => .ok true
    | .ok false => anyHolds d rest
  | _ :: rest => anyHolds d rest

end

end PolicyGate.Filter
