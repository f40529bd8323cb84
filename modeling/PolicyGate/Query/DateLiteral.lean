import PolicyGate.Calendar.Written
import PolicyGate.Query.Fault
import PolicyGate.Value.Basic

/-!
Date literals: strings that start and end with `#`. All `#` are dropped before the text is read as a
date, and a literal that is no date is a fault.
-/
namespace PolicyGate.Query

def dateMark : Char := '#'

def isDateLiteral (s : String) : Bool :=
  s.toList.head? == some dateMark && s.toList.getLast? == some dateMark

def unmarked (s : String) : String := String.ofList (s.toList.filter (· != dateMark))

/-- Replaces a date literal by its date; other values stay as they are. -/
def coerceLeaf : Value → Except QueryFault Value
  | .string s =>
    if isDateLiteral s then
      match Timestamp.read? (unmarked s) with
      | some t => .ok (.date t)
      | none => .error (.invalidDateLiteral s)
    else .ok (.string s)
  | v => .ok v

end PolicyGate.Query
