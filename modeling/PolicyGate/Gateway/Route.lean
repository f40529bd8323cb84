import PolicyGate.Http.Target

/-!
The resources of the gateway. A path names one by its spelling; the name of a table in it is decoded
later.
-/
namespace PolicyGate.Gateway

inductive Route where
  | health
  | rows (table : List Char)
  | resolution (api : List Char)
  | grants (table : List Char)
deriving DecidableEq

namespace Route

/-- The resource that a path names. Paths have no slash at their end. -/
def ofPath? (path : List Char) : Option Route :=
  match (Text.splitOn '/' path).map String.ofList with
  | ["", "health"] => some .health
  | ["", kind, name] =>
    if name.isEmpty then none
    else
      match kind with
      | "api" => some (.rows name.toList)
      | "meta" => some (.resolution name.toList)
      | "subscription" => some (.grants name.toList)
      | _ => none
  | _ => none

def methods : Route → List String
  | .rows _ => ["GET", "HEAD", "POST"]
  | _ => ["GET", "HEAD"]

def allowed (r : Route) : String := String.intercalate "," r.methods

end Route
end PolicyGate.Gateway
