import PolicyGate.Store.Fault
import PolicyGate.Value.Basic

/-!
Projections: which fields of a document are kept. The field `_id` is kept unless it is excluded by
name.
-/
namespace PolicyGate.Pipeline

/-- The fields named by a projection, by what is asked for them. -/
structure Projection where
  keepId : Bool := true
  included : List String := []
  excluded : List String := []
deriving DecidableEq

namespace Projection

def idField : String := "_id"

def add (p : Projection) (field : String) (flag : Value) : Except StoreFault Projection :=
  match flag with
  | .bool _ | .int _ | .double _ =>
    if field.toList.contains '.' then .error (.unsupported "nested projections")
    else if field = idField then .ok { p with keepId := flag.isTruthy }
    else if flag.isTruthy then .ok { p with included := p.included ++ [field] }
    else .ok { p with excluded := p.excluded ++ [field] }
  | _ => .error (.unsupported "computed projections")

/-- The projection that a specification asks for. -/
def ofValue (spec : Value) : Except StoreFault Projection :=
  match spec with
  | .document entries => do
    let p ← entries.foldlM (fun p (field, flag) => p.add field flag) {}
    if !p.included.isEmpty && !p.excluded.isEmpty then
      .error (.shape "$project" "cannot mix inclusion and exclusion")
    else .ok p
  | _ => .error (.shape "$project" "expects a document")

def keeps (p : Projection) (field : String) : Bool :=
  if p.included.isEmpty then !(p.excluded.contains field || (field == idField && !p.keepId))
  else p.included.contains field || (field == idField && p.keepId)

def apply (p : Projection) (d : Document) : Document :=
  Fields.ofEntries (d.filter fun (field, _) => p.keeps field)

end Projection
end PolicyGate.Pipeline
