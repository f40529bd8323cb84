import PolicyGate.Filter.Validate
import PolicyGate.Grants.Record
import PolicyGate.Store.Memory

/-!
Looking up the grants and mappings that apply to a caller. The records are kept in two collections of
the store whose data they protect.
-/
namespace PolicyGate

/-- More than one mapping redirects a table. The first one is used. -/
structure Ambiguity where
  api : String
  packages : List String
  found : Nat
  chosen : String
deriving DecidableEq

def Ambiguity.message (a : Ambiguity) : String :=
  "ambiguous collection mapping for '" ++ a.api ++ "': " ++ String.ofList (Text.decimal a.found) ++
    " metadata records matched, using '" ++ a.chosen ++ "'"

/-- Where the rows of a table are kept for a caller. -/
structure Resolution where
  api : String
  collection : String
  package : Option String
  /-- No mapping applies, so the table's own name is used. -/
  usesDefault : Bool
  ambiguity : Option Ambiguity
deriving DecidableEq

/-- The collections of grants and mappings in a store. -/
structure Registry where
  backend : Backend
  grantCollection : String := "security"
  mappingCollection : String := "meta"

namespace Registry

/-- The filter for the records with a value under `key` and one of the packages. -/
def scopedFilter (key value : String) (packages : List String) : Document :=
  let candidates := Value.array (packages.map Value.string)
  Fields.insert "package" (.document [("$in", candidates)]) [(key, .string value)]

/-- The grants for a table to any of the packages, as they are stored. -/
def storedGrants (r : Registry) (table : String) (packages : List String) :
    Except QueryFault (List Grant) :=
  (do
    let docs ← r.backend.find r.grantCollection (scopedFilter "table" table packages)
    docs.mapM (Grant.ofDocument r.grantCollection)).mapError QueryFault.store

/-- A grant with the date literals of its predicate read. A predicate that cannot be evaluated is the
administrator's fault. -/
def prepare (r : Registry) (g : Grant) : Except QueryFault Grant := do
  let predicate := match ← Query.coerceDates (.document g.predicate) with
    | .document d => d
    | _ => []
  match Filter.check predicate with
  | .ok () => return { g with predicate }
  | .error _ =>
    throw (.store (.invalidRecord r.grantCollection
      ("predicate for table '" ++ g.table ++ "' package '" ++ g.package ++ "' is invalid")))

/-- The grants that apply to a caller with the given packages; there must be one. -/
def grants (r : Registry) (table : String) (packages : List String) :
    Except QueryFault (List Grant) := do
  let stored ← r.storedGrants table packages
  if stored.isEmpty then throw .accessDenied else stored.mapM r.prepare

/-- The collection in which a table is kept for a caller with the given packages. -/
def resolve (r : Registry) (table : String) (packages : List String) :
    Except QueryFault Resolution := do
  let mappings ← (do
    let docs ← r.backend.find r.mappingCollection (scopedFilter "api" table packages)
    docs.mapM (Mapping.ofDocument r.mappingCollection)).mapError QueryFault.store
  match mappings with
  | [] => return ⟨table, table, none, true, none⟩
  | first :: rest =>
    let ambiguity : Option Ambiguity :=
      if rest.isEmpty then none else some ⟨table, packages, mappings.length, first.collection⟩
    return ⟨first.api, first.collection, some first.package, false, ambiguity⟩

end Registry
end PolicyGate
