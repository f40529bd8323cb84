import PolicyGate.Store.Fault
import PolicyGate.Text.Numeral

/-!
Faults that stop a query from being compiled.
-/
namespace PolicyGate

inductive QueryFault where
  /-- A key that names neither an allowed operator nor an allowed stage. -/
  | unsafeOperator (key : String)
  | invalidDateLiteral (literal : String)
  | nestingTooDeep (levels : Nat)
  | malformedQuery (detail : String)
  /-- No grant applies to the caller. It does not tell whether there is such a table. -/
  | accessDenied
  | store (fault : StoreFault)
deriving DecidableEq

namespace QueryFault

def message : QueryFault → String
  | .unsafeOperator key => "Operator not supported: " ++ key
  | .invalidDateLiteral literal => "Invalid date literal: " ++ literal
  | .nestingTooDeep levels =>
    "Query nesting exceeds " ++ String.ofList (Text.decimal levels) ++ " levels"
  | .malformedQuery detail => "Malformed query: " ++ detail
  | .accessDenied => "You don't have access to this table"
  | .store fault => fault.message

def status : QueryFault → Nat
  | .accessDenied => 403
  | .store fault => if fault.isClient then 400 else 500
  | _ => 400

def isClient (fault : QueryFault) : Bool := fault.status < 500

end QueryFault
end PolicyGate
