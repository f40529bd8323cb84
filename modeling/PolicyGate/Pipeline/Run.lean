import PolicyGate.Filter.Match
import PolicyGate.Pipeline.Projection
import PolicyGate.Pipeline.Sort

/-!
Running pipelines over lists of documents. A stage is a document with one entry. A stage that is not
known is refused, never passed over.
-/
namespace PolicyGate.Pipeline

/-- The documents that match a filter, up to the first fault. -/
def matching (filter : Document) : List Document → Except StoreFault (List Document)
  | [] => .ok []
  | d :: rest =>
    match Filter.holds d filter with
    | .error e => .error e
    | .ok true => (matching filter rest).map (d :: ·)
    | .ok false => matching filter rest

def amount (name : String) (operand : Value) : Except StoreFault Nat :=
  match operand.integer? with
  | some n =>
    if 0 ≤ n then .ok n.toInt.toNat else .error (.shape name "expects a non-negative integer")
  | none => .error (.shape name "expects a non-negative integer")

/-- The fields that an `$unset` stage names. -/
def unsetFields (operand : Value) : Except StoreFault (List String) :=
  match operand with
  | .string field => .ok [field]
  | .array items =>
    items.mapM fun v =>
      match v with
      | .string field => .ok field
      | _ => .error (.shape "$unset" "expects field names")
  | _ => .error (.shape "$unset" "expects a field name or an array of them")

def isPlainField (field : String) : Bool :=
  let cs := field.toList
  !cs.isEmpty && cs.head? != some '$' && !cs.contains '.'

def runStage (docs : List Document) (name : String) (operand : Value) :
    Except StoreFault (List Document) :=
  match name with
  | "$match" =>
    match operand with
    | .document filter => matching filter docs
    | _ => .error (.shape name "expects a document")
  | "$limit" => do
    let n ← amount name operand
    if n = 0 then .error (.shape name "must be positive") else .ok (docs.take n)
  | "$skip" => do
    let n ← amount name operand
    .ok (docs.drop n)
  | "$sort" => do
    let keys ← sortKeys operand
    .ok (sortBy keys docs)
  | "$project" => do
    let p ← Projection.ofValue operand
    .ok (docs.map p.apply)
  | "$unset" => do
    let fields ← unsetFields operand
    .ok (docs.map fun d => fields.foldl Fields.erase d)
  | "$count" =>
    match operand with
    | .string field =>
      if isPlainField field then .ok [[(field, .int (Int64.ofNat docs.length))]]
      else .error (.shape name "expects a plain field name")
    | _ => .error (.shape name "expects a plain field name")
  | _ => .error (.stage name)

def applyStage (docs : List Document) (stage : Document) : Except StoreFault (List Document) :=
  match stage with
  | [(name, operand)] => runStage docs name operand
  | _ => .error (.invalidPipeline "each stage must have exactly one key")

def run (docs : List Document) (stages : List Document) : Except StoreFault (List Document) :=
  stages.foldlM applyStage docs

end PolicyGate.Pipeline
