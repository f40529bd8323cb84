import PolicyGate.Grants.Registry

/-!
Compiling a client's query into a pipeline. The first stage keeps the rows that some grant allows; the
client's stages follow in their order, and a limit on the rows may close the pipeline.
-/
namespace PolicyGate

/-- A pipeline and the collection to run it on. -/
structure CompiledQuery where
  table : String
  resolution : Resolution
  pipeline : List Document

namespace Query

/-- The stage that keeps the rows allowed by one of the grants. -/
def securityStage (grants : List Grant) : Document :=
  [("$match", .document [("$or", .array (grants.map fun g => .document g.predicate))])]

/-- The largest row limit, unless some grant sets none. -/
def rowLimit (grants : List Grant) : Option Nat :=
  if grants.any Grant.isUnlimited then none else (grants.filterMap Grant.rowLimit).max?

def stage : Value → Except QueryFault Document
  | .document d => .ok d
  | _ => .error (.malformedQuery "pipeline stages must be documents")

/-- The stages that a query stands for: a list of stages, or a filter. -/
def stages : Value → Except QueryFault (List Document)
  | .array items => items.mapM stage
  | .document filter => .ok [[("$match", .document filter)]]
  | _ => .error (.malformedQuery "query must be a filter document or an array of stages")

/-- A missing query and null are the empty list of stages. -/
def orEmpty : Option Value → Value
  | none => .array []
  | some .null => .array []
  | some v => v

def limitStages (enforceRowLimit : Bool) (grants : List Grant) : List Document :=
  if enforceRowLimit then
    (rowLimit grants).toList.map fun n => [("$limit", .int (Int64.ofNat n))]
  else []

def assemble (grants : List Grant) (query : Option Value) (enforceRowLimit : Bool) :
    Except QueryFault (List Document) := do
  if grants.isEmpty then throw .accessDenied
  let clean ← sanitize (orEmpty query)
  let clientStages ← stages clean
  return securityStage grants :: clientStages ++ limitStages enforceRowLimit grants

def compile (r : Registry) (enforceRowLimit : Bool) (table : String) (packages : List String)
    (query : Option Value) : Except QueryFault CompiledQuery := do
  let grants ← r.grants table packages
  let resolution ← r.resolve table packages
  let pipeline ← assemble grants query enforceRowLimit
  return ⟨table, resolution, pipeline⟩

end Query
end PolicyGate
