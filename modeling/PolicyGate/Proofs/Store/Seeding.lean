import PolicyGate.Proofs.Outcomes
import PolicyGate.Store.Memory

/-!
Stores that are filled with seed data: each of their documents is a document of the seed, with its
literals of dates read.
-/
namespace PolicyGate.Store

open Outcomes

variable {s t : Store} {collection : String}

theorem documents_insertMany (s : Store) (collection other : String) (docs : List Document) :
    (s.insertMany collection docs).documents other =
      if collection = other then s.documents collection ++ docs else s.documents other := by
  rw [documents, insertMany, Fields.get?_insert]
  split <;> rfl

/-- The document is what stands there, with its literals of dates read. -/
def ReadAs (x : Json) (d : Document) : Prop := Query.coerceDates (Value.ofJson x) = .ok (.document d)

theorem seedDocument_ok {x : Json} {d : Document} :
    seedDocument collection x = .ok d ↔ ReadAs x d := by
  unfold seedDocument ReadAs
  cases Query.coerceDates (Value.ofJson x) with
  | error fault => simp
  | ok v => cases v <;> simp

theorem seedCollection_ok {content : Json} : s.seedCollection collection content = .ok t ↔
    ∃ items docs, content = .array items ∧ List.Forall₂ ReadAs items docs ∧
      t = s.insertMany collection docs := by
  constructor
  · intro filled
    cases content with
    | array items =>
      obtain ⟨docs, made, filled⟩ := bind_ok.mp filled
      cases filled
      exact ⟨items, docs, rfl, (mapM_ok.mp made).imp fun _ _ => seedDocument_ok.mp, rfl⟩
    | _ => cases filled
  · rintro ⟨items, docs, rfl, each, rfl⟩
    have made : items.mapM (seedDocument collection) = .ok docs :=
      mapM_ok.mpr (each.imp fun _ _ => seedDocument_ok.mpr)
    exact bind_ok.mpr ⟨docs, made, rfl⟩

/-- All documents, in whatever collection, are documents of seed data with their literals read. -/
def Seeded (s : Store) : Prop :=
  ∀ collection, ∀ d ∈ s.documents collection,
    ∃ x, Query.coerceDates (Value.ofJson x) = .ok (.document d)

theorem Seeded.seedCollection {content : Json} (seeded : s.Seeded)
    (filled : s.seedCollection collection content = .ok t) : t.Seeded := by
  obtain ⟨items, docs, rfl, each, rfl⟩ := seedCollection_ok.mp filled
  intro other d stored
  rw [documents_insertMany] at stored
  split at stored
  · rcases List.mem_append.mp stored with old | new
    · exact seeded collection d old
    · obtain ⟨x, _, coerced⟩ := exists_of_mem_right each new
      exact ⟨x, coerced⟩
  · exact seeded other d stored

theorem seeded_ofSeed {seed : Json} (loaded : ofSeed seed = .ok s) : s.Seeded := by
  cases seed with
  | object members =>
    refine foldlM_preserves ?_ ?_ loaded
    · intro member _ before after seeded filled
      exact seeded.seedCollection filled
    · intro collection d stored
      cases stored
  | _ => cases loaded

end PolicyGate.Store
