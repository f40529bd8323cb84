import PolicyGate.Pipeline.Run
import PolicyGate.Query.Sanitize
import PolicyGate.Value.Json

/-!
A store that holds its collections in memory, and what queries need of any store.
-/
namespace PolicyGate

/-- What queries need of a store: the documents that match a filter, and the rows of a pipeline. -/
structure Backend where
  find : (collection : String) → (filter : Document) → Except StoreFault (List Document)
  aggregate : (collection : String) → (stages : List Document) → Except StoreFault (List Document)

/-- Collections by name, each with its documents in the order of their insertion. -/
structure Store where
  collections : Fields (List Document) := []

namespace Store

/-- The documents of a collection; one that does not exist is empty. -/
def documents (s : Store) (collection : String) : List Document :=
  (s.collections.get? collection).getD []

/-- Appends documents to a collection, which need not exist yet. -/
def insertMany (s : Store) (collection : String) (docs : List Document) : Store :=
  ⟨s.collections.insert collection (s.documents collection ++ docs)⟩

/-- The names of the collections, sorted. -/
def names (s : Store) : List String := s.collections.keys.mergeSort fun a b => decide (a ≤ b)

def find (s : Store) (collection : String) (filter : Document) : Except StoreFault (List Document) :=
  Pipeline.matching filter (s.documents collection)

def aggregate (s : Store) (collection : String) (stages : List Document) :
    Except StoreFault (List Document) :=
  Pipeline.run (s.documents collection) stages

def backend (s : Store) : Backend := ⟨s.find, s.aggregate⟩

/-- What may be asked of a store. -/
inductive Call where
  | insertMany (collection : String) (docs : List Document)
  | find (collection : String) (filter : Document)
  | aggregate (collection : String) (stages : List Document)

inductive Answer where
  /-- By how many documents the collection has grown. -/
  | added (count : Nat)
  | rows (docs : List Document)

/-- The answer to a call, and the store after it. -/
def answer (s : Store) : Call → Except StoreFault Answer × Store
  | .insertMany collection docs =>
    let grown := s.insertMany collection docs
    let count := (grown.documents collection).length - (s.documents collection).length
    (.ok (.added count), grown)
  | .find collection filter => ((s.find collection filter).map .rows, s)
  | .aggregate collection stages => ((s.aggregate collection stages).map .rows, s)

/-- A document of seed data, with its date literals read. -/
def seedDocument (collection : String) (x : Json) : Except StoreFault Document :=
  match Query.coerceDates (Value.ofJson x) with
  | .ok (.document d) => .ok d
  | .ok _ => .error (.seed ("collection '" ++ collection ++ "' must contain only documents"))
  | .error e => .error (.seed ("collection '" ++ collection ++ "': " ++ e.message))

def seedCollection (s : Store) (collection : String) (content : Json) : Except StoreFault Store :=
  match content with
  | .array items => do
    let docs ← items.mapM (seedDocument collection)
    return s.insertMany collection docs
  | _ => .error (.seed ("collection '" ++ collection ++ "' must be an array"))

/-- The store that an object of arrays of documents describes. -/
def ofSeed (seed : Json) : Except StoreFault Store :=
  match seed with
  | .object members => members.foldlM (fun s (name, content) => s.seedCollection name content) {}
  | _ => .error (.seed "seed must be an object of collections")

end Store
end PolicyGate
