import PolicyGate.Calendar.Format
import PolicyGate.Value.Json

/-!
Rows as the gateway shows them: without the identity field, and with top-level dates in the
configured format.
-/
namespace PolicyGate.Gateway

def idField : String := "_id"

def defaultDateFormat : String := "%Y-%m-%d %H:%M:%S"

/-- A value at the top level of a row; a date has no text in some formats. -/
def renderField? (dateFormat : String) : Value → Option Json
  | .date t => (DateFormat.render? dateFormat t).map Json.string
  | v => some v.toJson

def renderRow? (dateFormat : String) (row : Document) : Option Json := do
  let fields ← (row.filter fun (field, _) => field != idField).mapM fun (field, v) => do
    return (field, ← renderField? dateFormat v)
  return .object (Fields.ofEntries fields)

end PolicyGate.Gateway
