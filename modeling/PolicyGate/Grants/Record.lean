import PolicyGate.Json.Reader
import PolicyGate.Store.Fault
import PolicyGate.Value.Json

/-!
The records that administrators keep in the store: grants, which give a package access to rows of a
table, and mappings, which say in which collection a table is kept.
-/
namespace PolicyGate

/-- Access of a package to the rows of a table that match a predicate. -/
structure Grant where
  table : String
  package : String
  predicate : Document
  /-- The greatest number of rows; 0 sets no limit either. -/
  rowLimit : Option Nat

/-- The collection in which a table is kept for a package. -/
structure Mapping where
  api : String
  package : String
  collection : String
deriving DecidableEq

def Document.requireString (collection : String) (d : Document) (field : String) :
    Except StoreFault String :=
  match Fields.get? d field with
  | some (.string s) => .ok s
  | _ => .error (.invalidRecord collection ("missing '" ++ field ++ "'"))

namespace Grant

def decodePredicate (collection text : String) : Except StoreFault Document :=
  match Json.read text with
  | .error message => .error (.invalidRecord collection ("predicate is not JSON: " ++ message))
  | .ok x =>
    match Value.ofJson x with
    | .document d => .ok d
    | _ => .error (.invalidRecord collection "predicate must be a document")

def predicateOf (collection : String) (d : Document) : Except StoreFault Document :=
  match (Fields.get? d "predicate").or (Fields.get? d "pre") with
  | some (.document predicate) => .ok predicate
  | some (.string text) => decodePredicate collection text
  | some .null => .error (.invalidRecord collection "missing predicate")
  | none => .error (.invalidRecord collection "missing predicate")
  | some _ => .error (.invalidRecord collection "predicate must be a document")

def rowLimitOf (collection : String) (d : Document) : Except StoreFault (Option Nat) :=
  match (Fields.get? d "rowLimit").or (Fields.get? d "limit") with
  | none => .ok none
  | some .null => .ok none
  | some v =>
    match v.integer? with
    | some n =>
      if 0 ≤ n then .ok (some n.toInt.toNat)
      else .error (.invalidRecord collection "rowLimit must be a non-negative integer")
    | none => .error (.invalidRecord collection "rowLimit must be a non-negative integer")

def ofDocument (collection : String) (d : Document) : Except StoreFault Grant := do
  let table ← d.requireString collection "table"
  let package ← d.requireString collection "package"
  let predicate ← predicateOf collection d
  let rowLimit ← rowLimitOf collection d
  return ⟨table, package, predicate, rowLimit⟩

def isUnlimited (g : Grant) : Bool := g.rowLimit.getD 0 == 0

end Grant

def Mapping.ofDocument (collection : String) (d : Document) : Except StoreFault Mapping := do
  let api ← d.requireString collection "api"
  let package ← d.requireString collection "package"
  let name ← d.requireString collection "collection"
  return ⟨api, package, name⟩

end PolicyGate
