import Mathlib.Data.List.Basic
import PolicyGate.Proofs.Query.RowCap

/-!
Callers with more packages have access to more: more grants apply to them, more rows are visible, and the
limit on the rows is no smaller. How often and in which order their packages are listed makes no
difference.
-/
namespace PolicyGate

open Outcomes

theorem Document.concerns_mono {key value : String} {few many : List String}
    (within : ∀ p ∈ few, p ∈ many) {d : Document} (concerned : d.concerns key value few = true) :
    d.concerns key value many = true := by
  unfold concerns at *
  obtain ⟨named, package⟩ := Bool.and_eq_true_iff.mp concerned
  obtain ⟨p, member, listed⟩ := List.any_eq_true.mp package
  exact Bool.and_eq_true_iff.mpr ⟨named, List.any_eq_true.mpr ⟨p, within p member, listed⟩⟩

namespace Query

variable {few many : List Grant}

theorem visible_sublist (sub : few.Sublist many) (docs : List Document) :
    (visible few docs).Sublist (visible many docs) := by
  apply List.monotone_filter_right
  intro d seen
  obtain ⟨g, member, accepted⟩ := List.any_eq_true.mp seen
  exact List.any_eq_true.mpr ⟨g, sub.subset member, accepted⟩

/-- The stage of the grants keeps the document. -/
def Admits (grants : List Grant) (d : Document) : Prop :=
  Pipeline.applyStage [d] (securityStage grants) = .ok [d]

theorem admits_iff {grants : List Grant}
    (checked : ∀ g ∈ grants, Filter.check g.predicate = .ok ()) {d : Document} :
    Admits grants d ↔ visible grants [d] = [d] := by
  rw [Admits, securityStage_ok checked, Except.ok.injEq]

theorem admits_mono (sub : few.Sublist many)
    (checked : ∀ g ∈ many, Filter.check g.predicate = .ok ()) {d : Document}
    (admitted : Admits few d) : Admits many d := by
  -- The wider selection keeps the document as well, and a selection of one document has no more.
  have seen := (admits_iff fun g member => checked g (sub.subset member)).mp admitted
  have wider : [d].Sublist (visible many [d]) := by
    have kept := visible_sublist sub [d]
    rwa [seen] at kept
  exact (admits_iff checked).mpr (List.filter_sublist.antisymm wider)

theorem rowLimit_mono (sub : few.Sublist many) (granted : few ≠ []) {n : Nat}
    (limit : rowLimit many = some n) : ∃ m ≤ n, rowLimit few = some m := by
  obtain ⟨limited, greatest⟩ := rowLimit_eq_some.mp limit
  have bounded : rowLimit few ≠ none := by
    rw [ne_eq, rowLimit_eq_none granted]
    rintro ⟨g, member, free⟩
    exact limited g (sub.subset member) free
  obtain ⟨m, own⟩ := Option.ne_none_iff_exists'.mp bounded
  obtain ⟨g, member, set⟩ := (rowLimit_eq_some.mp own).2.1
  exact ⟨m, greatest.2 ⟨g, sub.subset member, set⟩, own⟩

end Query

namespace Registry

variable (r : Registry) (s : Store) (table : String) {few many : List String}

theorem records_sublist (within : ∀ p ∈ few, p ∈ many) :
    (r.records table few s).Sublist (r.records table many s) := by
  apply List.monotone_filter_right
  intro d
  exact Document.concerns_mono within

theorem grants_ne_nil {packages : List String} {grants : List Grant}
    (found : r.grants table packages = .ok grants) : grants ≠ [] := by
  obtain ⟨stored, _, some, each⟩ := r.grants_ok.mp found
  rintro rfl
  cases each
  exact some rfl

theorem grants_sublist (within : ∀ p ∈ few, p ∈ many) {granted wider : List Grant}
    (fewer : (r.withStore s).grants table few = .ok granted)
    (more : (r.withStore s).grants table many = .ok wider) : granted.Sublist wider := by
  obtain ⟨storedFew, foundFew, _, eachFew⟩ := (r.withStore s).grants_ok.mp fewer
  obtain ⟨stored, found, _, each⟩ := (r.withStore s).grants_ok.mp more
  rw [storedGrants_eq, mapError_ok] at foundFew found
  have sub := mapM_sublist (r.records_sublist s table within) foundFew found
  exact mapM_sublist sub (mapM_ok.mpr eachFew) (mapM_ok.mpr each)

theorem grants_congr_packages (within : ∀ p ∈ few, p ∈ many) (back : ∀ p ∈ many, p ∈ few) :
    (r.withStore s).grants table few = (r.withStore s).grants table many := by
  have same : r.records table few s = r.records table many s :=
    (r.records_sublist s table within).antisymm (r.records_sublist s table back)
  rw [Registry.grants, Registry.grants, storedGrants_eq, storedGrants_eq, same]

/-- Whoever acts for more packages has at least the access of one who acts for fewer: the grants, the
documents and the number of rows. Lists of the same packages give the same grants, and with them the same
stage and the same limit, or the same fault. -/
theorem access_monotone (r : Registry) (s : Store) (table : String) {few many : List String}
    (within : ∀ p ∈ few, p ∈ many) :
    (∀ granted wider, (r.withStore s).grants table few = .ok granted →
        (r.withStore s).grants table many = .ok wider →
          granted.Sublist wider ∧
          (∀ d, Query.Admits granted d → Query.Admits wider d) ∧
          ∀ n, Query.rowLimit wider = some n → ∃ m ≤ n, Query.rowLimit granted = some m) ∧
      ((∀ p ∈ many, p ∈ few) →
        (r.withStore s).grants table few = (r.withStore s).grants table many) := by
  refine ⟨?_, r.grants_congr_packages s table within⟩
  intro granted wider fewer more
  have sub := r.grants_sublist s table within fewer more
  have checked := (r.withStore s).grants_checked more
  have some := (r.withStore s).grants_ne_nil table fewer
  exact ⟨sub, fun d => Query.admits_mono sub checked, fun n => Query.rowLimit_mono sub some⟩

def layeredStore : Store :=
  ⟨[("security",
    [[("table", .string "people"), ("package", .string "silver"),
        ("predicate", .document [("team", .string "a")]), ("limit", .int 2)],
      [("table", .string "people"), ("package", .string "gold"),
        ("predicate", .document [("age", .document [("$gte", .int 18)])]), ("rowLimit", .int 5)]])]⟩

theorem access_monotone_layered :
    let r : Registry := { backend := layeredStore.backend }
    ∃ granted wider, r.grants "people" ["silver", "silver"] = .ok granted ∧
      r.grants "people" ["gold", "silver"] = .ok wider ∧ granted.length < wider.length ∧
      granted.Sublist wider ∧ (∀ d, Query.Admits granted d → Query.Admits wider d) ∧
      Query.rowLimit wider = some 5 ∧ (∃ m ≤ 5, Query.rowLimit granted = some m) ∧
      r.grants "people" ["silver", "silver"] = r.grants "people" ["silver"] := by
  intro r
  have within : ∀ p ∈ ["silver", "silver"], p ∈ ["gold", "silver"] := by decide
  have once : ∀ p ∈ ["silver", "silver"], p ∈ ["silver"] := by decide
  obtain ⟨granted, fewer, one⟩ : ∃ granted,
      r.grants "people" ["silver", "silver"] = .ok granted ∧ granted.length = 1 := ⟨_, rfl, rfl⟩
  obtain ⟨wider, more, two, limit⟩ : ∃ wider, r.grants "people" ["gold", "silver"] = .ok wider ∧
      wider.length = 2 ∧ Query.rowLimit wider = some 5 := ⟨_, rfl, rfl, rfl⟩
  obtain ⟨sub, admits, capped⟩ :=
    (access_monotone r layeredStore "people" within).1 granted wider fewer more
  have same := (access_monotone r layeredStore "people" once).2 (by decide)
  exact ⟨granted, wider, fewer, more, by omega, sub, admits, limit, capped 5 limit, same⟩

end Registry
end PolicyGate
