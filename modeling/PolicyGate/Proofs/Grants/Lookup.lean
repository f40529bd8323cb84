import PolicyGate.Proofs.Outcomes
import PolicyGate.Proofs.Pipeline.Selection
import PolicyGate.Proofs.Query.Acceptance

/-!
How grants are looked up: the records that match, as they are stored, and then each with its predicate
read and checked. Checking suffices: what has passed it is evaluated on every document, and the stage
made of grants that were looked up never fails.
-/
namespace PolicyGate.Registry

open Outcomes

variable (r : Registry) {table : String} {packages : List String}

def withStore (s : Store) : Registry := { r with backend := s.backend }

theorem storedGrants_ok {stored : List Grant} :
    r.storedGrants table packages = .ok stored ↔
      ∃ docs, r.backend.find r.grantCollection (scopedFilter "table" table packages) = .ok docs ∧
        List.Forall₂ (fun d g => Grant.ofDocument r.grantCollection d = .ok g) docs stored := by
  rw [storedGrants, mapError_ok, bind_ok]
  simp only [mapM_ok]

theorem prepare_ok {g prepared : Grant} :
    r.prepare g = .ok prepared ↔
      ∃ p, Query.coerceDates (.document g.predicate) = .ok (.document p) ∧
        Filter.check p = .ok () ∧ { g with predicate := p } = prepared := by
  rw [prepare, bind_ok]
  constructor
  · rintro ⟨v, read, h⟩
    obtain ⟨p, rfl⟩ := Query.coerceDates_document read
    dsimp only at h
    split at h
    · rename_i checked
      exact ⟨p, read, checked, Except.ok.inj h⟩
    · cases h
  · rintro ⟨p, read, checked, rfl⟩
    refine ⟨_, read, ?_⟩
    dsimp only
    rw [checked]
    rfl

theorem prepare_error {g : Grant} {fault : QueryFault} (failed : r.prepare g = .error fault) :
    Query.coerceDates (.document g.predicate) = .error fault ∨
      (∃ v, Query.coerceDates (.document g.predicate) = .ok v) ∧
        ∃ reason, fault = .store (.invalidRecord r.grantCollection reason) := by
  rw [prepare, bind_error] at failed
  rcases failed with unread | ⟨v, read, h⟩
  · exact .inl unread
  · dsimp only at h
    split at h
    · cases h
    · cases h
      exact .inr ⟨⟨v, read⟩, _, rfl⟩

theorem grants_ok {grants : List Grant} :
    r.grants table packages = .ok grants ↔
      ∃ stored, r.storedGrants table packages = .ok stored ∧ stored ≠ [] ∧
        List.Forall₂ (fun g prepared => r.prepare g = .ok prepared) stored grants := by
  rw [Registry.grants, bind_ok]
  constructor
  · rintro ⟨stored, found, h⟩
    split at h
    · cases h
    · rename_i some
      exact ⟨stored, found, by simpa using some, mapM_ok.mp h⟩
  · rintro ⟨stored, found, some, each⟩
    refine ⟨stored, found, ?_⟩
    rw [if_neg (by simpa using some)]
    exact mapM_ok.mpr each

theorem grants_checked {grants : List Grant} (granted : r.grants table packages = .ok grants) :
    ∀ g ∈ grants, Filter.check g.predicate = .ok () := by
  obtain ⟨stored, _, _, each⟩ := r.grants_ok.mp granted
  intro g member
  obtain ⟨_, _, prepared⟩ := exists_of_mem_right each member
  obtain ⟨p, _, checked, rfl⟩ := r.prepare_ok.mp prepared
  exact checked

theorem check_scopedFilter {key : String} (field : key = "table" ∨ key = "api") (value : String)
    (packages : List String) : Filter.check (scopedFilter key value packages) = .ok () := by
  rcases field with rfl | rfl <;> rfl

theorem find_scopedFilter (s : Store) (collection : String) {key : String}
    (field : key = "table" ∨ key = "api") (value : String) (packages : List String) :
    s.find collection (scopedFilter key value packages) =
      .ok ((s.documents collection).filter
        (Filter.accepts (scopedFilter key value packages))) :=
  Pipeline.matching_ok fun d _ => Filter.holds_settles d _ (check_scopedFilter field value packages)

theorem grants_congr {s t : Store} (table : String) (packages : List String)
    (same : s.documents r.grantCollection = t.documents r.grantCollection) :
    (r.withStore s).grants table packages = (r.withStore t).grants table packages := by
  have found : (r.withStore s).storedGrants table packages =
      (r.withStore t).storedGrants table packages := by
    simp only [storedGrants, withStore, Store.backend, Store.find, same]
  rw [grants, grants, found]
  rfl

theorem resolve_congr {s t : Store} (table : String) (packages : List String)
    (same : s.documents r.mappingCollection = t.documents r.mappingCollection) :
    (r.withStore s).resolve table packages = (r.withStore t).resolve table packages := by
  simp only [resolve, withStore, Store.backend, Store.find, same]

/-- A check that passes promises an answer for every document, and so does a lookup that succeeds. -/
theorem checked_filters_settle :
    (∀ filter, Filter.check filter = .ok () → ∀ d, ∃ b, Filter.holds d filter = .ok b) ∧
      ∀ (r : Registry) (table : String) (packages : List String) (grants : List Grant),
        r.grants table packages = .ok grants → ∀ docs,
          Pipeline.applyStage docs (Query.securityStage grants) = .ok (Query.visible grants docs) := by
  constructor
  · intro filter checked d
    exact Filter.holds_settles d filter checked
  · intro r table packages grants granted docs
    exact Query.securityStage_ok (r.grants_checked granted) docs

def sampleFilter : Document :=
  [("$or", .array
    [.document [("team", .string "a")],
      .document [("name", .document
        [("$not", .document [("$regex", .string "^x"), ("$options", .string "m")])])]]),
    ("age", .document [("$gte", .int 18), ("$nin", .array [.int 20, .null])])]

def sampleStore : Store :=
  ⟨[("security", [[("table", .string "people"), ("package", .string "gold"),
    ("predicate", .document [("team", .document [("$in", .array [.string "a"])])])]])]⟩

theorem checked_filters_settle_sample :
    Filter.check sampleFilter = .ok () ∧ (∃ b, Filter.holds [] sampleFilter = .ok b) ∧
      ∃ g, Registry.grants { backend := sampleStore.backend } "people" ["gold"] = .ok [g] ∧
        ∀ docs, Pipeline.applyStage docs (Query.securityStage [g]) =
          .ok (Query.visible [g] docs) :=
  ⟨by decide +kernel, checked_filters_settle.1 sampleFilter (by decide +kernel) [], _, rfl,
    checked_filters_settle.2 { backend := sampleStore.backend } "people" ["gold"] _ rfl⟩

end PolicyGate.Registry
