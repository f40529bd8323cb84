import Mathlib.Order.Bounds.Basic
import PolicyGate.Proofs.Grants.Scope
import PolicyGate.Proofs.Query.Compiled

/-!
The limit on the rows of an answer. It is the largest one that the grants set, and there is none if some
grant sets none. As the last stage it cuts the answer and changes nothing else.
-/
namespace PolicyGate

open Outcomes

namespace Grant

def Unlimited (g : Grant) : Prop := g.rowLimit = none ∨ g.rowLimit = some 0

theorem isUnlimited_iff {g : Grant} : g.isUnlimited = true ↔ g.Unlimited := by
  cases limit : g.rowLimit <;> simp [isUnlimited, Unlimited, limit]

theorem rowLimitOf_le {collection : String} {d : Document} {n : Nat}
    (read : rowLimitOf collection d = .ok (some n)) : (n : Int) ≤ Int64.maxValue.toInt := by
  unfold rowLimitOf at read
  split at read
  · cases read
  · cases read
  · split at read
    · rename_i k _
      have bound : k.toInt ≤ Int64.maxValue.toInt := k.toInt_le
      have top : (0 : Int) ≤ Int64.maxValue.toInt := by decide
      split at read
      · cases read
        omega
      · cases read
    · cases read

/-- A limit that was read from a record is an integer of 64 bits. -/
theorem rowLimit_le {collection : String} {d : Document} {g : Grant} {n : Nat}
    (decoded : ofDocument collection d = .ok g) (limit : g.rowLimit = some n) :
    (n : Int) ≤ Int64.maxValue.toInt := by
  obtain ⟨_, _, _, read⟩ := ofDocument_ok.mp decoded
  rw [limit] at read
  exact rowLimitOf_le read

end Grant

namespace Pipeline

theorem run_concat (docs stages : List Document) (stage : Document) :
    run docs (stages ++ [stage]) = run docs stages >>= fun rows => applyStage rows stage := by
  simp only [run, List.foldlM_append, List.foldlM_cons, List.foldlM_nil, bind_pure]

theorem applyStage_limit (docs : List Document) {n : Int64} {m : Nat} (same : n.toInt = m)
    (positive : 1 ≤ m) : applyStage docs [("$limit", .int n)] = .ok (docs.take m) := by
  have nonneg : (0 : Int64) ≤ n := by
    rw [Int64.le_iff_toInt_le, same]
    exact Int.natCast_nonneg m
  have read : amount "$limit" (.int n) = .ok m := by
    change (if 0 ≤ n then Except.ok n.toInt.toNat else _) = _
    rw [if_pos nonneg, same, Int.toNat_natCast]
  have counted : m ≠ 0 := by omega
  change (amount "$limit" (.int n) >>= fun n =>
    if n = 0 then Except.error _ else .ok (docs.take n)) = _
  rw [read]
  exact if_neg counted

end Pipeline

namespace Query

/-- The numbers of rows that some grant sets as its limit. -/
def limits (grants : List Grant) : Set Nat := {n | ∃ g ∈ grants, g.rowLimit = some n}

theorem rowLimit_eq_some {grants : List Grant} {m : Nat} :
    rowLimit grants = some m ↔ (∀ g ∈ grants, ¬ g.Unlimited) ∧ IsGreatest (limits grants) m := by
  have greatest : (grants.filterMap Grant.rowLimit).max? = some m ↔
      IsGreatest (limits grants) m := by
    rw [List.max?_eq_some_iff]
    simp only [List.mem_filterMap]
    rfl
  have limited : grants.any Grant.isUnlimited = true ↔ ∃ g ∈ grants, g.Unlimited := by
    simp only [List.any_eq_true, Grant.isUnlimited_iff]
  unfold rowLimit
  split
  · rename_i unlimited
    obtain ⟨g, member, free⟩ := limited.mp unlimited
    simp only [reduceCtorEq, false_iff]
    rintro ⟨all, _⟩
    exact all g member free
  · rename_i all
    rw [limited] at all
    push Not at all
    exact greatest.trans (and_iff_right all).symm

theorem rowLimit_eq_none {grants : List Grant} (granted : grants ≠ []) :
    rowLimit grants = none ↔ ∃ g ∈ grants, g.Unlimited := by
  constructor
  · intro missing
    by_contra limited
    push Not at limited
    have bounded : ¬ grants.any Grant.isUnlimited = true := by
      simpa [Grant.isUnlimited_iff] using limited
    rw [rowLimit, if_neg bounded, List.max?_eq_none_iff, List.filterMap_eq_nil_iff] at missing
    obtain ⟨g, member⟩ := List.exists_mem_of_ne_nil grants granted
    exact limited g member (.inl (missing g member))
  · rintro ⟨g, member, free⟩
    have unlimited : grants.any Grant.isUnlimited = true :=
      List.any_eq_true.mpr ⟨g, member, Grant.isUnlimited_iff.mpr free⟩
    rw [rowLimit, if_pos unlimited]

theorem assemble_eq {grants : List Grant} (granted : grants ≠ []) (query : Option Value)
    (enforceRowLimit : Bool) :
    assemble grants query enforceRowLimit =
      (sanitize (orEmpty query) >>= stages).map fun clientStages =>
        securityStage grants :: clientStages ++ limitStages enforceRowLimit grants := by
  obtain ⟨g, rest, rfl⟩ := List.exists_cons_of_ne_nil granted
  rw [assemble]
  cases sanitize (orEmpty query) with
  | error fault => rfl
  | ok clean =>
    change (stages clean >>= fun clientStages => pure _) = (stages clean).map _
    cases stages clean <;> rfl

/-- With the limit in force a pipeline is the one without it, with a stage for the limit behind it. -/
theorem assemble_enforced (grants : List Grant) (query : Option Value) :
    assemble grants query true =
      (assemble grants query false).map (· ++ limitStages true grants) := by
  -- Without a grant both are denied; otherwise they share the client's stages, or their fault.
  by_cases granted : grants = []
  · subst granted
    rfl
  · have free : limitStages false grants = [] := rfl
    rw [assemble_eq granted, assemble_eq granted, free]
    cases sanitize (orEmpty query) >>= stages <;> simp [Except.map]

theorem limitStages_of_unlimited {grants : List Grant} (unlimited : ∃ g ∈ grants, g.Unlimited) :
    limitStages true grants = [] := by
  have granted : grants ≠ [] := by
    obtain ⟨g, member, _⟩ := unlimited
    exact List.ne_nil_of_mem member
  rw [limitStages, if_pos rfl, (rowLimit_eq_none granted).mpr unlimited]
  rfl

/-- The stage holds the limit itself: no number that a record can set is cut or wraps. -/
theorem limitStages_of_limited {grants : List Grant} (granted : grants ≠ [])
    (stored : ∀ g ∈ grants, ∃ collection d, Grant.ofDocument collection d = .ok g)
    (limited : ∀ g ∈ grants, ¬ g.Unlimited) :
    ∃ (m : Nat) (n : Int64), IsGreatest (limits grants) m ∧ 1 ≤ m ∧
      (m : Int) ≤ Int64.maxValue.toInt ∧ n.toInt = m ∧
      limitStages true grants = [[("$limit", .int n)]] := by
  have found : rowLimit grants ≠ none := by
    rw [ne_eq, rowLimit_eq_none granted]
    push Not
    exact limited
  obtain ⟨m, limit⟩ := Option.ne_none_iff_exists'.mp found
  have greatest := (rowLimit_eq_some.mp limit).2
  obtain ⟨g, member, own⟩ := greatest.1
  have positive : m ≠ 0 := by
    rintro rfl
    exact limited g member (.inr own)
  obtain ⟨collection, d, decoded⟩ := stored g member
  have fits : (m : Int) ≤ Int64.maxValue.toInt := Grant.rowLimit_le decoded own
  have small : m < 2 ^ 63 := by
    have top : Int64.maxValue.toInt = 2 ^ 63 - 1 := by decide
    omega
  refine ⟨m, Int64.ofNat m, greatest, by omega, fits, Int64.toInt_ofNat_of_lt small, ?_⟩
  rw [limitStages, if_pos rfl, limit]
  rfl

open Pipeline in
/-- Enforcing the row limit never decides whether a query is accepted. If some grant sets no limit,
nothing changes; otherwise the answer is cut to the largest limit, and faults stay what they are. -/
theorem row_cap {grants : List Grant} {query : Option Value}
    (stored : ∀ g ∈ grants, ∃ collection d, Grant.ofDocument collection d = .ok g) :
    (∀ fault, assemble grants query true = .error fault ↔
        assemble grants query false = .error fault) ∧
      ∀ free capped, assemble grants query false = .ok free →
        assemble grants query true = .ok capped →
          ((∃ g ∈ grants, g.Unlimited) → capped = free) ∧
          ((∀ g ∈ grants, ¬ g.Unlimited) →
            ∃ (m : Nat) (n : Int64), IsGreatest (limits grants) m ∧ 1 ≤ m ∧
              (m : Int) ≤ Int64.maxValue.toInt ∧ n.toInt = m ∧
              capped = free ++ [[("$limit", .int n)]] ∧
              ∀ docs, run docs capped = (run docs free).map (List.take m)) := by
  rw [assemble_enforced]
  constructor
  · intro fault
    exact map_error
  · intro free capped assembled enforced
    rw [assembled] at enforced
    cases enforced
    constructor
    · intro unlimited
      rw [limitStages_of_unlimited unlimited]
      exact List.append_nil free
    · intro limited
      have granted := (assemble_ok.mp assembled).1
      obtain ⟨m, n, greatest, positive, fits, same, stage⟩ :=
        limitStages_of_limited granted stored limited
      refine ⟨m, n, greatest, positive, fits, same, by rw [stage], ?_⟩
      intro docs
      rw [stage, run_concat]
      cases run docs free with
      | error fault => rfl
      | ok rows => exact applyStage_limit rows same positive

/-- A record whose limit is a double. -/
def threeRows : Document :=
  [("table", .string "people"), ("package", .string "gold"), ("pre", .document []),
    ("limit", .double (.ofInt 3))]

def twoRows : Document :=
  [("table", .string "people"), ("package", .string "silver"), ("predicate", .document []),
    ("rowLimit", .int 2)]

def limitedGrants : List Grant :=
  [⟨"people", "gold", [], some 3⟩, ⟨"people", "silver", [], some 2⟩]

def oldestFirst : Value := .array [.document [("$sort", .document [("age", .int (-1))])]]

theorem row_cap_sample :
    List.Forall₂ (fun d g => Grant.ofDocument "security" d = .ok g) [threeRows, twoRows]
        limitedGrants ∧
      ∃ free capped, assemble limitedGrants (some oldestFirst) false = .ok free ∧
        assemble limitedGrants (some oldestFirst) true = .ok capped ∧
        capped = free ++ [[("$limit", .int 3)]] ∧
        ∀ docs, Pipeline.run docs capped = (Pipeline.run docs free).map (List.take 3) := by
  have three : Grant.rowLimitOf "security" threeRows = .ok (some 3) := by decide +kernel
  have decoded : List.Forall₂ (fun d g => Grant.ofDocument "security" d = .ok g)
      [threeRows, twoRows] limitedGrants :=
    .cons (Grant.ofDocument_ok.mpr ⟨rfl, rfl, rfl, three⟩) (.cons rfl .nil)
  have stored : ∀ g ∈ limitedGrants, ∃ collection d, Grant.ofDocument collection d = .ok g := by
    intro g member
    obtain ⟨d, _, made⟩ := exists_of_mem_right decoded member
    exact ⟨"security", d, made⟩
  have accepted : (assemble limitedGrants (some oldestFirst) false).toOption.isSome = true := by
    decide +kernel
  obtain ⟨free, assembled⟩ := toOption_isSome.mp accepted
  obtain ⟨capped, enforced⟩ :
      ∃ capped, assemble limitedGrants (some oldestFirst) true = .ok capped := by
    rw [assemble_enforced, assembled]
    exact ⟨_, rfl⟩
  obtain ⟨m, n, greatest, _, _, same, stage, cut⟩ :=
    ((row_cap stored).2 free capped assembled enforced).2 (by simp [limitedGrants, Grant.Unlimited])
  have largest : m = 3 := by
    have upper : 3 ≤ m := greatest.2 ⟨_, List.mem_cons_self, rfl⟩
    have own : 3 = m ∨ 2 = m := by simpa [limits, limitedGrants] using greatest.1
    omega
  subst largest
  have same : n = 3 := Int64.toInt_inj.mp same
  exact ⟨decoded, free, capped, assembled, enforced, same ▸ stage, cut⟩

end Query
end PolicyGate
