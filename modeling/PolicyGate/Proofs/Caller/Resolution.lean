import Mathlib.Data.List.Basic
import PolicyGate.Caller
import PolicyGate.Proofs.Calendar.Range
import PolicyGate.Proofs.Outcomes

/-!
When claims are accepted, and which packages they give. Both are said without the program's own loop: a
package is what stands behind the prefix in some permission, and packages come in the order in which their
permissions do.
-/
namespace PolicyGate.PermissionRules

theorem idxOf_filter_lt {α : Type} [DecidableEq α] {xs : List α} {c a b : α} (ha : a ≠ c)
    (hb : b ≠ c) (ordered : (xs.filter (!· == c)).idxOf a < (xs.filter (!· == c)).idxOf b) :
    xs.idxOf a < xs.idxOf b := by
  induction xs with
  | nil => exact ordered
  | cons x rest ih =>
    by_cases dropped : x = c
    · rw [List.filter_cons_of_neg (by simpa using dropped)] at ordered
      rw [List.idxOf_cons_ne rest (dropped ▸ ha.symm), List.idxOf_cons_ne rest (dropped ▸ hb.symm)]
      exact Nat.succ_lt_succ (ih ordered)
    · rw [List.filter_cons_of_pos (by simpa using dropped)] at ordered
      by_cases last : x = b
      · rw [last, List.idxOf_cons_self] at ordered
        exact absurd ordered (Nat.not_lt_zero _)
      by_cases first : x = a
      · rw [first, List.idxOf_cons_self, List.idxOf_cons_ne rest (first ▸ last)]
        exact Nat.succ_pos _
      · rw [List.idxOf_cons_ne _ first, List.idxOf_cons_ne _ last] at ordered
        rw [List.idxOf_cons_ne _ first, List.idxOf_cons_ne _ last]
        exact Nat.succ_lt_succ (ih (Nat.lt_of_succ_lt_succ ordered))

/-- Where doubles are dropped, the first of each is kept. -/
theorem eraseDups_ordered {α : Type} [DecidableEq α] (xs : List α) :
    xs.eraseDups.Pairwise fun a b => xs.idxOf a < xs.idxOf b := by
  match xs with
  | [] => exact List.Pairwise.nil
  | x :: rest =>
    have later := eraseDups_ordered (rest.filter (!· == x))
    have other : ∀ a ∈ (rest.filter (!· == x)).eraseDups, a ≠ x := by
      intro a member
      simpa using (List.mem_filter.mp (List.mem_eraseDups.mp member)).2
    rw [List.eraseDups_cons]
    apply List.Pairwise.cons
    · intro a member
      rw [List.idxOf_cons_self, List.idxOf_cons_ne rest (other a member).symm]
      exact Nat.succ_pos _
    · apply later.imp_of_mem
      intro a b ha hb ordered
      rw [List.idxOf_cons_ne rest (other a ha).symm, List.idxOf_cons_ne rest (other b hb).symm]
      exact Nat.succ_lt_succ (idxOf_filter_lt (other a ha) (other b hb) ordered)
termination_by xs.length
decreasing_by exact Nat.lt_succ_of_le (List.length_filter_le _ _)

variable (r : PermissionRules)

theorem package?_eq_some {permission name : String} :
    r.package? permission = some name ↔ name ≠ "" ∧ permission = r.scopePrefix ++ name := by
  have spelt : permission = r.scopePrefix ++ name ↔
      permission.toList = r.scopePrefix.toList ++ name.toList := by
    rw [← String.toList_append, String.toList_inj]
  have empty : name = "" ↔ name.toList = [] := by rw [← String.toList_inj, String.toList_empty]
  rw [package?, spelt, ne_eq, empty]
  split
  · rename_i found
    obtain ⟨rest, whole⟩ := List.isPrefixOf_iff_prefix.mp found.1
    have short := found.2
    rw [← whole, List.drop_left] at *
    rw [List.length_append] at short
    constructor
    · intro made
      cases made
      rw [String.toList_ofList]
      refine ⟨?_, rfl⟩
      rintro rfl
      exact Nat.lt_irrefl _ short
    · rintro ⟨_, same⟩
      rw [List.append_cancel_left same, String.ofList_toList]
  · rename_i refused
    constructor
    · intro made
      cases made
    · rintro ⟨some, whole⟩
      have longer : 0 < name.toList.length := List.length_pos_iff.mpr some
      refine absurd ⟨List.isPrefixOf_iff_prefix.mpr ⟨_, whole.symm⟩, ?_⟩ refused
      rw [whole, List.length_append]
      omega

/-- A permission names the package: it is the prefix with the name of the package behind it. -/
def Names (permissions : List String) (name : String) : Prop :=
  name ≠ "" ∧ r.scopePrefix ++ name ∈ permissions

theorem mem_packages {permissions : List String} {name : String} :
    name ∈ r.packages permissions ↔ r.Names permissions name := by
  rw [packages, List.mem_eraseDups, List.mem_filterMap, Names]
  constructor
  · rintro ⟨permission, member, named⟩
    obtain ⟨some, rfl⟩ := r.package?_eq_some.mp named
    exact ⟨some, member⟩
  · rintro ⟨some, member⟩
    exact ⟨_, member, r.package?_eq_some.mpr ⟨some, rfl⟩⟩

theorem idxOf_permission_lt {permissions : List String} {p q : String} (hp : p ≠ "") (hq : q ≠ "")
    (ordered : (permissions.filterMap r.package?).idxOf p <
      (permissions.filterMap r.package?).idxOf q) :
    permissions.idxOf (r.scopePrefix ++ p) < permissions.idxOf (r.scopePrefix ++ q) := by
  induction permissions with
  | nil => exact ordered
  | cons permission rest ih =>
    have names (name : String) (some : name ≠ "") :
        permission = r.scopePrefix ++ name ↔ r.package? permission = .some name := by
      rw [r.package?_eq_some, and_iff_right some]
    cases named : r.package? permission with
    | none =>
      rw [List.filterMap_cons_none named] at ordered
      rw [List.idxOf_cons_ne rest (by simp [names p hp, named]),
        List.idxOf_cons_ne rest (by simp [names q hq, named])]
      exact Nat.succ_lt_succ (ih ordered)
    | some name =>
      rw [List.filterMap_cons_some named] at ordered
      by_cases last : name = q
      · rw [last, List.idxOf_cons_self] at ordered
        exact absurd ordered (Nat.not_lt_zero _)
      have after : permission ≠ r.scopePrefix ++ q := by simpa [names q hq, named] using last
      by_cases first : name = p
      · rw [← (names p hp).mpr (first ▸ named), List.idxOf_cons_self,
          List.idxOf_cons_ne rest after]
        exact Nat.succ_pos _
      · have other : permission ≠ r.scopePrefix ++ p := by simpa [names p hp, named] using first
        rw [List.idxOf_cons_ne _ first, List.idxOf_cons_ne _ last] at ordered
        rw [List.idxOf_cons_ne rest other, List.idxOf_cons_ne rest after]
        exact Nat.succ_lt_succ (ih (Nat.lt_of_succ_lt_succ ordered))

/-- The packages are those that the permissions name, in the order in which each is named first. -/
structure NamedInOrder (permissions packages : List String) : Prop where
  named : ∀ name, name ∈ packages ↔ r.Names permissions name
  ordered : packages.Pairwise fun p q =>
    permissions.idxOf (r.scopePrefix ++ p) < permissions.idxOf (r.scopePrefix ++ q)

theorem packages_namedInOrder (permissions : List String) :
    r.NamedInOrder permissions (r.packages permissions) := by
  refine ⟨fun name => r.mem_packages, ?_⟩
  apply (eraseDups_ordered (permissions.filterMap r.package?)).imp_of_mem
  intro p q hp hq ordered
  exact r.idxOf_permission_lt (r.mem_packages.mp hp).1 (r.mem_packages.mp hq).1 ordered

theorem NamedInOrder.nodup {r : PermissionRules} {permissions packages : List String}
    (listed : r.NamedInOrder permissions packages) : packages.Nodup := by
  apply listed.ordered.imp
  rintro p q before rfl
  exact Nat.lt_irrefl _ before

theorem caller_packages (subject : String) (permissions : List String) :
    (r.caller subject permissions).packages =
      if r.packages permissions = [] then ["anonymous"] else r.packages permissions := by
  rw [caller, Caller.of, Caller.anonymousPackage]
  cases r.packages permissions <;> rfl

theorem expiresAt_eq_some {claims : Claims} {t : Timestamp} :
    claims.expiresAt = some t ↔ claims.expires = some t.seconds ∧ t.nanos = 0 ∧ t.Covered := by
  rw [Claims.expiresAt, Option.bind_eq_some_iff]
  constructor
  · rintro ⟨e, given, h⟩
    dsimp only at h
    split at h
    · rename_i covered
      cases h
      exact ⟨given, rfl, covered⟩
    · cases h
  · obtain ⟨e, nanos⟩ := t
    rintro ⟨given, rfl, covered⟩
    exact ⟨e, given, if_pos covered⟩

theorem isCurrent_iff {claims : Claims} {now : Timestamp} :
    r.isCurrent claims now = true ↔ r.neverExpires ∈ claims.permissions ∨
      ∃ e, claims.expires = some e ∧ Timestamp.Covered ⟨e, 0⟩ ∧ now.Before ⟨e, 0⟩ := by
  rw [isCurrent, Bool.or_eq_true, List.contains_iff_mem, Option.any_eq_true]
  apply or_congr_right
  constructor
  · rintro ⟨⟨e, nanos⟩, expiry, later⟩
    obtain ⟨given, rfl, covered⟩ := expiresAt_eq_some.mp expiry
    exact ⟨e, given, covered, Timestamp.compare_eq_gt.mp (beq_iff_eq.mp later)⟩
  · rintro ⟨e, given, covered, later⟩
    exact ⟨⟨e, 0⟩, expiresAt_eq_some.mpr ⟨given, rfl, covered⟩,
      beq_iff_eq.mpr (Timestamp.compare_eq_gt.mpr later)⟩

theorem resolve_ok {claims : Claims} {now : Timestamp} {caller : Caller} :
    r.resolve claims now = .ok caller ↔
      r.isCurrent claims now = true ∧ caller = r.caller claims.subject claims.permissions := by
  rw [resolve]
  split
  · rename_i current
    rw [Except.ok.injEq, eq_comm, and_iff_right current]
  · rename_i expired
    simp [expired]

theorem isCurrent_earlier {claims : Claims} {earlier now : Timestamp} (before : earlier.Before now)
    (current : r.isCurrent claims now = true) : r.isCurrent claims earlier = true := by
  rcases r.isCurrent_iff.mp current with exempt | ⟨e, given, covered, later⟩
  · exact r.isCurrent_iff.mpr (.inl exempt)
  · exact r.isCurrent_iff.mpr (.inr ⟨e, given, covered, before.trans later⟩)

/-- Claims are accepted if they are exempt from expiry, or expire at an instant that the calendar covers
and that has not come. Whoever is accepted would have been so before, as the same caller: for the packages
that the permissions name, each once and in their order, or for the anonymous one if they name none. -/
theorem resolution_exact (r : PermissionRules) (claims : Claims) (now : Timestamp) :
    ((∃ caller, r.resolve claims now = .ok caller) ↔
        r.neverExpires ∈ claims.permissions ∨
          ∃ e, claims.expires = some e ∧ (-8334601228800 ≤ e ∧ e ≤ 8210266876799) ∧
            now.Before ⟨e, 0⟩) ∧
      ∀ caller, r.resolve claims now = .ok caller →
        (∀ earlier, Timestamp.Before earlier now → r.resolve claims earlier = .ok caller) ∧
        caller.subject = claims.subject ∧ caller.packages ≠ [] ∧ caller.packages.Nodup ∧
        ((∃ name, r.Names claims.permissions name) →
          r.NamedInOrder claims.permissions caller.packages) ∧
        ((¬ ∃ name, r.Names claims.permissions name) → caller.packages = ["anonymous"]) := by
  constructor
  · simp only [r.resolve_ok, r.isCurrent_iff, Timestamp.covered_iff, exists_and_left, exists_eq,
      and_true]
  · intro caller accepted
    obtain ⟨current, rfl⟩ := r.resolve_ok.mp accepted
    have listed := r.packages_namedInOrder claims.permissions
    have none : r.packages claims.permissions = [] ↔
        ¬ ∃ name, r.Names claims.permissions name := by
      simp only [List.eq_nil_iff_forall_not_mem, r.mem_packages, not_exists]
    refine ⟨?_, rfl, ?_⟩
    · intro earlier before
      exact r.resolve_ok.mpr ⟨r.isCurrent_earlier before current, rfl⟩
    rw [r.caller_packages]
    split
    · rename_i empty
      exact ⟨by simp, by simp, fun named => absurd named (none.mp empty), fun _ => rfl⟩
    · rename_i some
      exact ⟨some, listed.nodup, fun _ => listed, fun unnamed => absurd (none.mpr unnamed) some⟩

/-- A name that is given twice, the prefix alone, and a name that begins with the prefix. -/
def layeredClaims : Claims :=
  { subject := "ann", permissions := ["api:silver", "api:", "admin", "api:api:gold", "api:silver"],
    expires := some 8210266876799, audience := .one "rowgate" }

theorem resolution_exact_layered :
    PermissionRules.resolve {} layeredClaims ⟨8210266876799, 0⟩ = .error .tokenExpired ∧
      ∃ caller, PermissionRules.resolve {} layeredClaims ⟨8210266876798, 999999999⟩ = .ok caller ∧
        caller.packages = ["silver", "api:gold"] ∧
        NamedInOrder {} layeredClaims.permissions caller.packages ∧
        ∀ earlier, Timestamp.Before earlier ⟨8210266876798, 999999999⟩ →
          PermissionRules.resolve {} layeredClaims earlier = .ok caller := by
  obtain ⟨succeeds, told⟩ := resolution_exact {} layeredClaims ⟨8210266876798, 999999999⟩
  obtain ⟨caller, accepted⟩ :=
    succeeds.mpr (.inr ⟨8210266876799, rfl, by omega, .inl (by decide)⟩)
  obtain ⟨before, _, _, _, listed, _⟩ := told caller accepted
  have named : ∃ name, Names {} layeredClaims.permissions name := by
    refine ⟨"silver", by decide, ?_⟩
    decide
  obtain ⟨_, same⟩ := (PermissionRules.resolve_ok {}).mp accepted
  exact ⟨by decide +kernel, caller, accepted, by rw [same]; decide +kernel, listed named, before⟩

end PolicyGate.PermissionRules
