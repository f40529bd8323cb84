import PolicyGate.Filter.Match

/-!
Checking filters without a document: every branch is walked, so that operands and patterns are checked
even where no document would lead to them.
-/
namespace PolicyGate.Filter

def checkOperand (name : String) (operand : Value) (options : String) : Except StoreFault Unit :=
  match name with
  | "$eq" | "$ne" | "$gt" | "$gte" | "$lt" | "$lte" | "$exists" => .ok ()
  | "$options" => if operand.string?.isSome then .ok () else .error (.shape name "expects a string")
  | "$in" | "$nin" => if operand.array?.isSome then .ok () else .error (.shape name "expects an array")
  | "$regex" => (pattern operand options).map fun _ => ()
  | _ => .error (.operator name)

mutual

def checkOperators (options : String) : (operators : List (String × Value)) → Except StoreFault Unit
  | [] => .ok ()
  | (name, operand) :: rest =>
    match checkOperator options name operand with
    | .error e => .error e
    | .ok () => checkOperators options rest

def checkOperator (options name : String) : (operand : Value) → Except StoreFault Unit
  | .document inner =>
    if name = "$not" then
      if isOperators inner then checkOperators (Filter.options inner) inner
      else .error (.shape name "expects an operator document")
    else checkOperand name (.document inner) options
  | operand =>
    if name = "$not" then .error (.shape name "expects an operator document")
    else checkOperand name operand options

end

/-- Only a document of operators has anything to be checked. -/
def checkCondition (condition : Value) : Except StoreFault Unit :=
  match condition with
  | .document operators =>
    if isOperators operators then checkOperators (options operators) operators else .ok ()
  | _ => .ok ()

mutual

/-- Whether a filter can be evaluated on any document. -/
def check : (filter : List (String × Value)) → Except StoreFault Unit
  | [] => .ok ()
  | (key, condition) :: rest =>
    match checkEntry key condition with
    | .error e => .error e
    | .ok () => check rest

def checkEntry (key : String) : (condition : Value) → Except StoreFault Unit
  | .array clauses =>
    if key = "$and" ∨ key = "$or" ∨ key = "$nor" then
      (checkClauses key (.array clauses)).bind fun _ => checkAll clauses
    else if isOperatorName key then .error (.operator key)
    else .ok ()
  | condition =>
    if key = "$and" ∨ key = "$or" ∨ key = "$nor" then .error (.shape key "expects an array")
    else if isOperatorName key then .error (.operator key)
    else checkCondition condition

def checkAll : (clauses : List Value) → Except StoreFault Unit
  | [] => .ok ()
  | .document clause :: rest =>
    match check clause with
    | .error e => .error e
    | .ok () => checkAll rest
  | _ :: rest => checkAll rest

end

end PolicyGate.Filter
