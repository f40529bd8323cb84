import PolicyGate.Proofs.Grants.Scope
import PolicyGate.Proofs.Query.Compiled

/-!
Mappings send a table to a collection and do no more: the first that applies to the caller is used, and a
compiled pipeline is the same whatever mappings there are.
-/
namespace PolicyGate

open Outcomes

theorem Mapping.ofDocument_ok {collection : String} {d : Document} {m : Mapping} :
    ofDocument collection d = .ok m ↔
      Fields.get? d "api" = some (.string m.api) ∧
      Fields.get? d "package" = some (.string m.package) ∧
      Fields.get? d "collection" = some (.string m.collection) := by
  rw [ofDocument]
  simp only [bind_ok, Document.requireString_ok]
  constructor
  · rintro ⟨api, ha, package, hp, name, hn, h⟩
    cases h
    exact ⟨ha, hp, hn⟩
  · rintro ⟨ha, hp, hn⟩
    exact ⟨_, ha, _, hp, _, hn, rfl⟩

namespace Registry

variable (r : Registry) (table : String) (packages : List String) {resolution : Resolution}

/-- The records of mappings for the table and the packages, in the order in which they are stored. -/
def mappings (s : Store) : List Document :=
  (s.documents r.mappingCollection).filter (Document.concerns "api" table packages)

/-- What the mappings for a table come to. -/
def redirection : List Mapping → Resolution
  | [] => ⟨table, table, none, true, none⟩
  | m :: later => ⟨m.api, m.collection, some m.package, false,
      if later.isEmpty then none
      else some ⟨table, packages, (m :: later).length, m.collection⟩⟩

theorem resolve_eq (s : Store) :
    (r.withStore s).resolve table packages =
      (((r.mappings table packages s).mapM (Mapping.ofDocument r.mappingCollection)).map
        (redirection table packages)).mapError .store := by
  have same : Filter.accepts (scopedFilter "api" table packages) =
      Document.concerns "api" table packages := by
    funext d
    exact Filter.accepts_scopedFilter (.inr rfl) table packages d
  have found := find_scopedFilter s r.mappingCollection (.inr rfl) table packages
  rw [same] at found
  rw [resolve]
  change ((s.find r.mappingCollection (scopedFilter "api" table packages) >>= fun docs =>
    docs.mapM (Mapping.ofDocument r.mappingCollection)).mapError _ >>= _) = _
  rw [found]
  change (((r.mappings table packages s).mapM
    (Mapping.ofDocument r.mappingCollection)).mapError QueryFault.store >>= _) = _
  cases (r.mappings table packages s).mapM (Mapping.ofDocument r.mappingCollection) with
  | error fault => rfl
  | ok records => cases records <;> rfl

theorem resolve_error {s : Store} {fault : QueryFault}
    (failed : (r.withStore s).resolve table packages = .error fault) :
    ∃ cause, fault = .store cause := by
  rw [resolve_eq] at failed
  obtain ⟨cause, _, rfl⟩ := mapError_error.mp failed
  exact ⟨cause, rfl⟩

/-- What is found, in the order in which it is stored, decides where the table is kept: the first record
names the collection, and nothing found stands for the collection of the table's name. More than one
record is reported. -/
structure Redirects (found : List Document) (resolution : Resolution) : Prop where
  default : resolution.usesDefault = true ↔ found = []
  own : found = [] →
    resolution.api = table ∧ resolution.collection = table ∧ resolution.package = none
  first : ∀ d later, found = d :: later →
    Fields.get? d "api" = some (.string resolution.api) ∧
    Fields.get? d "collection" = some (.string resolution.collection) ∧
    ∃ package, Fields.get? d "package" = some (.string package) ∧
      resolution.package = some package
  reported : ∀ report, resolution.ambiguity = some report ↔
    2 ≤ found.length ∧ report = ⟨table, packages, found.length, resolution.collection⟩

theorem redirects_of_decoded {collection : String} {found : List Document} {records : List Mapping}
    (decoded : List.Forall₂ (fun d m => Mapping.ofDocument collection d = .ok m) found records) :
    Redirects table packages found (redirection table packages records) := by
  cases decoded with
  | nil =>
    refine ⟨by simp [redirection], fun _ => ⟨rfl, rfl, rfl⟩, ?_, by simp [redirection]⟩
    intro d later none
    cases none
  | @cons d m rest later made others =>
    obtain ⟨api, package, name⟩ := Mapping.ofDocument_ok.mp made
    refine ⟨by simp [redirection], fun none => (by cases none), ?_, ?_⟩
    · intro d' rest' same
      cases same
      exact ⟨api, name, m.package, package, rfl⟩
    · intro report
      have counted := others.length_eq
      cases later with
      | nil =>
        simp [redirection, List.length_eq_zero_iff.mp counted]
      | cons m' more =>
        simp only [redirection, List.isEmpty_cons, Bool.false_eq_true, if_false, Option.some.injEq,
          List.length_cons] at *
        have several : 2 ≤ rest.length + 1 := by omega
        rw [and_iff_right several, counted]
        exact eq_comm

end Registry

namespace Query

variable {r : Registry} {s t : Store} {enforceRowLimit : Bool} {table : String}
  {packages : List String} {query : Option Value}

/-- Stores with the same grants give the same pipeline, if a collection is found at all. -/
theorem compile_of_same_grants {compiled : CompiledQuery}
    (same : s.documents r.grantCollection = t.documents r.grantCollection)
    (accepted : compile (r.withStore s) enforceRowLimit table packages query = .ok compiled) :
    compile (r.withStore t) enforceRowLimit table packages query =
      ((r.withStore t).resolve table packages).map fun resolution =>
        ⟨table, resolution, compiled.pipeline⟩ := by
  obtain ⟨grants, resolution, pipeline, granted, _, assembled, rfl⟩ := compile_ok.mp accepted
  rw [r.grants_congr table packages same] at granted
  rw [compile, granted]
  cases (r.withStore t).resolve table packages with
  | error fault => rfl
  | ok resolution =>
    change assemble grants query enforceRowLimit >>= _ = _
    rw [assembled]
    rfl

end Query

namespace Registry

/-- Mappings redirect a table and change nothing else: which collection is used depends on the first
record that is found, and the pipeline on the grants and the query alone. -/
theorem mappings_only_redirect (r : Registry) (table : String) (packages : List String) :
    (∀ s, ((∃ resolution, (r.withStore s).resolve table packages = .ok resolution) ↔
          ∀ d ∈ r.mappings table packages s, ∃ m, Mapping.ofDocument r.mappingCollection d = .ok m) ∧
        ∀ resolution, (r.withStore s).resolve table packages = .ok resolution →
          Redirects table packages (r.mappings table packages s) resolution) ∧
      ∀ s t, s.documents r.grantCollection = t.documents r.grantCollection →
        ∀ enforceRowLimit query compiled compiled',
          Query.compile (r.withStore s) enforceRowLimit table packages query = .ok compiled →
          Query.compile (r.withStore t) enforceRowLimit table packages query = .ok compiled' →
            compiled.pipeline = compiled'.pipeline := by
  refine ⟨fun s => ⟨?_, ?_⟩, ?_⟩
  · simp only [resolve_eq, mapError_ok, map_ok, ← exists_mapM_ok]
    constructor
    · rintro ⟨_, records, decoded, _⟩
      exact ⟨records, decoded⟩
    · rintro ⟨records, decoded⟩
      exact ⟨_, records, decoded, rfl⟩
  · intro resolution resolved
    rw [resolve_eq, mapError_ok] at resolved
    obtain ⟨records, decoded, rfl⟩ := map_ok.mp resolved
    exact redirects_of_decoded table packages (mapM_ok.mp decoded)
  · intro s t same enforceRowLimit query compiled compiled' accepted accepted'
    rw [Query.compile_of_same_grants same accepted] at accepted'
    obtain ⟨resolution, _, rfl⟩ := map_ok.mp accepted'
    rfl

def mapped (package collection : String) : Document :=
  [("api", .string "people"), ("package", .string package), ("collection", .string collection)]

/-- Two mappings apply to gold. The one of another package stands first and does not decode. -/
def mappedStore : Store :=
  ⟨("meta", [[("api", .string "people"), ("package", .string "silver")], mapped "gold" "staff",
    mapped "gold" "archive"]) :: sampleStore.collections⟩

theorem mappings_only_redirect_ambiguous :
    let r : Registry := { backend := sampleStore.backend }
    (∃ resolution, (r.withStore mappedStore).resolve "people" ["gold"] = .ok resolution ∧
        Redirects "people" ["gold"] [mapped "gold" "staff", mapped "gold" "archive"] resolution ∧
        resolution.collection = "staff") ∧
      sampleStore.documents "security" = mappedStore.documents "security" ∧
      ∃ compiled compiled',
        Query.compile (r.withStore sampleStore) true "people" ["gold"] none = .ok compiled ∧
        Query.compile (r.withStore mappedStore) true "people" ["gold"] none = .ok compiled' ∧
        compiled.resolution.collection ≠ compiled'.resolution.collection ∧
        compiled.pipeline = compiled'.pipeline := by
  intro r
  obtain ⟨resolves, redirected⟩ := mappings_only_redirect r "people" ["gold"]
  refine ⟨⟨_, rfl, (resolves mappedStore).2 _ rfl, rfl⟩, rfl, ?_⟩
  have same : sampleStore.documents "security" = mappedStore.documents "security" := rfl
  have elsewhere : "people" ≠ "staff" := by decide
  exact ⟨_, _, rfl, rfl, elsewhere, redirected _ _ same true none _ _ rfl rfl⟩

end Registry
end PolicyGate
