import PolicyGate.Gateway.Handlers
import PolicyGate.Proofs.Query.Compiled

/-!
Rows that no grant of a caller allows have no influence on what the caller gets: the grants decide
which rows are seen, and everything later is computed from those.
-/
namespace PolicyGate

open Outcomes

namespace Query

theorem compile_congr {r : Registry} {s t : Store}
    (sameGrants : s.documents r.grantCollection = t.documents r.grantCollection)
    (sameMappings : s.documents r.mappingCollection = t.documents r.mappingCollection)
    (enforceRowLimit : Bool) (table : String) (packages : List String) (query : Option Value) :
    compile (r.withStore s) enforceRowLimit table packages query =
      compile (r.withStore t) enforceRowLimit table packages query := by
  rw [compile, compile, r.grants_congr table packages sameGrants,
    r.resolve_congr table packages sameMappings]

/-- To run a compiled pipeline is to run the client's stages on the visible rows. -/
theorem run_compiled {r : Registry} {enforceRowLimit : Bool} {table : String}
    {packages : List String} {query : Option Value} {compiled : CompiledQuery}
    (accepted : compile r enforceRowLimit table packages query = .ok compiled) :
    ∃ grants clean clientStages, r.grants table packages = .ok grants ∧
      sanitize (orEmpty query) = .ok clean ∧ stages clean = .ok clientStages ∧
      ∀ docs, Pipeline.run docs compiled.pipeline =
        Pipeline.run (visible grants docs)
          (clientStages ++ limitStages enforceRowLimit grants) := by
  obtain ⟨grants, resolution, pipeline, granted, _, assembled, rfl⟩ := compile_ok.mp accepted
  obtain ⟨_, clean, clientStages, sanitized, staged, rfl⟩ := assemble_ok.mp assembled
  refine ⟨grants, clean, clientStages, granted, sanitized, staged, ?_⟩
  intro docs
  dsimp only
  rw [List.cons_append, Pipeline.run_cons, securityStage_ok (r.grants_checked granted)]
  rfl

end Query

namespace Gateway

def withStore (g : Gateway) (s : Store) : Gateway := { g with registry := g.registry.withStore s }

theorem rows_withStore (g : Gateway) (s : Store) (caller : Caller) (table : String)
    (query : Option Value) :
    (g.withStore s).rows caller table query =
      ((Query.compile (g.registry.withStore s) g.enforceRowLimit table caller.packages
          query).mapError .query) >>= fun compiled =>
          (Pipeline.run (s.documents compiled.resolution.collection) compiled.pipeline).mapError
            .store := rfl

/-- Two stores that differ in the invisible rows of one collection, which holds neither grants nor
mappings, give a caller the same rows or the same fault. They are those of the client's stages on the
visible rows. -/
theorem rows_noninterference (g : Gateway) (s t : Store) (hidden : String) (caller : Caller)
    (table : String) (query : Option Value)
    (noGrants : hidden ≠ g.registry.grantCollection)
    (noMappings : hidden ≠ g.registry.mappingCollection)
    (elsewhere : ∀ collection, collection ≠ hidden →
      s.documents collection = t.documents collection)
    (alike : ∀ grants, (g.registry.withStore s).grants table caller.packages = .ok grants →
      Query.visible grants (s.documents hidden) = Query.visible grants (t.documents hidden)) :
    (g.withStore s).rows caller table query = (g.withStore t).rows caller table query ∧
      ∀ compiled,
        Query.compile (g.registry.withStore s) g.enforceRowLimit table caller.packages query =
          .ok compiled →
        ∃ grants clean clientStages,
          (g.registry.withStore s).grants table caller.packages = .ok grants ∧
          Query.sanitize (Query.orEmpty query) = .ok clean ∧
          Query.stages clean = .ok clientStages ∧
          (g.withStore s).rows caller table query =
            (Pipeline.run (Query.visible grants (s.documents compiled.resolution.collection))
              (clientStages ++ Query.limitStages g.enforceRowLimit grants)).mapError .store := by
  have compiles := Query.compile_congr (elsewhere _ noGrants.symm) (elsewhere _ noMappings.symm)
    g.enforceRowLimit table caller.packages query
  constructor
  · rw [rows_withStore, rows_withStore, ← compiles]
    cases accepted :
        Query.compile (g.registry.withStore s) g.enforceRowLimit table caller.packages query with
    | error fault => rfl
    | ok compiled =>
      obtain ⟨grants, _, _, granted, _, _, runs⟩ := Query.run_compiled accepted
      change Except.mapError _ (Pipeline.run (s.documents _) _) =
        Except.mapError _ (Pipeline.run (t.documents _) _)
      rw [runs, runs]
      -- Mappings may lead to the collection with the hidden rows or to another one.
      by_cases there : compiled.resolution.collection = hidden
      · rw [there, alike grants granted]
      · rw [elsewhere _ there]
  · intro compiled accepted
    obtain ⟨grants, clean, clientStages, granted, sanitized, staged, runs⟩ :=
      Query.run_compiled accepted
    refine ⟨grants, clean, clientStages, granted, sanitized, staged, ?_⟩
    rw [rows_withStore, accepted, ← runs]
    rfl

def sampleRows (others : List Document) : Store :=
  ⟨("people", [("team", .string "a"), ("name", .string "Ann")] :: others) ::
    Registry.sampleStore.collections⟩

def sampleGateway : Gateway := { registry := { backend := Registry.sampleStore.backend } }

theorem rows_noninterference_sample :
    let hidden := [[("team", .string "b"), ("name", .string "Bob")]]
    (∀ collection, collection ≠ "people" →
        (sampleRows hidden).documents collection = (sampleRows []).documents collection) ∧
      (sampleRows hidden).documents "people" ≠ (sampleRows []).documents "people" ∧
      ∀ query,
        (sampleGateway.withStore (sampleRows hidden)).rows ⟨"ann", ["gold"]⟩ "people" query =
          (sampleGateway.withStore (sampleRows [])).rows ⟨"ann", ["gold"]⟩ "people" query := by
  intro hidden
  have elsewhere : ∀ collection, collection ≠ "people" →
      (sampleRows hidden).documents collection = (sampleRows []).documents collection := by
    intro collection other
    simp only [sampleRows, Store.documents, Fields.get?, if_neg other.symm]
  refine ⟨elsewhere, ?_, ?_⟩
  · intro same
    exact absurd (congrArg List.length same) (by decide)
  · intro query
    refine (rows_noninterference sampleGateway _ _ "people" ⟨"ann", ["gold"]⟩ "people" query
      (by decide) (by decide) elsewhere ?_).1
    intro grants granted
    cases granted
    rfl

end Gateway
end PolicyGate
