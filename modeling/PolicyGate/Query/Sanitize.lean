import PolicyGate.Query.AllowList
import PolicyGate.Query.DateLiteral
import PolicyGate.Query.Walk

/-!
The two walks over query trees: `sanitize` for what clients send, `coerceDates` for what
administrators have stored, whose keys are trusted.
-/
namespace PolicyGate.Query

/-- Runs a walk whose replacing needs no state. -/
def runWalk (isAllowed : String → Bool) (v : Value) : Except QueryFault Value :=
  ((walk isAllowed (fun leaf => ExceptT.mk (pure (coerceLeaf leaf))) 0 v).run.run ()).1

/-- Checks all keys and replaces date literals by dates. -/
def sanitize (v : Value) : Except QueryFault Value := runWalk isAllowedKey v

/-- Replaces date literals by dates. -/
def coerceDates (v : Value) : Except QueryFault Value := runWalk (fun _ => true) v

end PolicyGate.Query
