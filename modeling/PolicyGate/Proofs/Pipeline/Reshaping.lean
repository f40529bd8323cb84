import Mathlib.Data.List.Perm.Basic
import Mathlib.Data.List.Perm.Subperm
import PolicyGate.Proofs.Outcomes
import PolicyGate.Proofs.Pipeline.Selection

/-!
What stages do to rows. All stages but `$count` only leave out rows, reorder them and trim them; a
`$count` puts one row with the number of rows in their place.
-/
namespace PolicyGate.Pipeline

open Outcomes

variable {docs rows kept : List Document}

/-- Some of the rows from before are left, each once and in any order, with some of their entries. -/
def Reshapes (before after : List Document) : Prop :=
  ∃ kept, kept.Subperm before ∧ List.Forall₂ List.Sublist after kept

theorem Reshapes.of_subperm (selected : rows.Subperm docs) : Reshapes docs rows :=
  ⟨rows, selected, List.forall₂_same.mpr fun row _ => List.Sublist.refl row⟩

theorem Reshapes.of_map {trim : Document → Document} (each : ∀ d ∈ docs, (trim d).Sublist d) :
    Reshapes docs (docs.map trim) := by
  refine ⟨docs, List.Subperm.refl docs, ?_⟩
  rw [List.forall₂_map_left_iff, List.forall₂_same]
  exact each

theorem Reshapes.length_le (reshaped : Reshapes docs rows) : rows.length ≤ docs.length := by
  obtain ⟨kept, selected, trimmed⟩ := reshaped
  rw [trimmed.length_eq]
  exact selected.length_le

theorem Reshapes.mem (reshaped : Reshapes docs rows) {row : Document} (member : row ∈ rows) :
    ∃ d ∈ docs, row.Sublist d := by
  obtain ⟨kept, selected, trimmed⟩ := reshaped
  have flipped : List.Forall₂ (fun d row => row.Sublist d) kept rows := trimmed.flip
  obtain ⟨d, inside, sub⟩ := exists_of_mem_right flipped member
  exact ⟨d, selected.subset inside, sub⟩

theorem matching_sublist {filter : Document} (matched : matching filter docs = .ok kept) :
    kept.Sublist docs := by
  induction docs generalizing kept with
  | nil =>
    cases matched
    exact List.Sublist.refl []
  | cons d rest ih =>
    rw [matching] at matched
    split at matched
    · cases matched
    · obtain ⟨later, found, rfl⟩ := map_ok.mp matched
      exact (ih found).cons_cons d
    · exact (ih matched).cons d

theorem insertDescending_perm (keys : List SortKey) (d : Document) (sorted : List Document) :
    (insertDescending keys d sorted).Perm (d :: sorted) := by
  induction sorted with
  | nil => exact List.Perm.refl [d]
  | cons last rest ih =>
    unfold insertDescending
    split
    · exact (ih.cons last).trans (List.Perm.swap d last rest)
    · exact List.Perm.refl _

theorem sortBy_perm (keys : List SortKey) (docs : List Document) :
    (sortBy keys docs).Perm docs := by
  suffices ∀ sorted : List Document,
      (docs.foldl (fun sorted d => insertDescending keys d sorted) sorted).Perm
        (docs.reverse ++ sorted) by
    have all := this []
    rw [List.append_nil] at all
    exact (List.reverse_perm _).trans (all.trans (List.reverse_perm docs))
  induction docs with
  | nil => exact fun sorted => List.Perm.refl sorted
  | cons d rest ih =>
    intro sorted
    have later := ih (insertDescending keys d sorted)
    have inserted := (insertDescending_perm keys d sorted).append_left rest.reverse
    rw [List.reverse_cons, List.append_assoc]
    exact later.trans inserted

theorem Projection.apply_eq (p : Projection) {d : Document} (distinct : Fields.Distinct d) :
    p.apply d = d.filter fun entry => p.keeps entry.1 :=
  Fields.ofEntries_of_distinct (distinct.sublist List.filter_sublist)

theorem Projection.apply_sublist (p : Projection) {d : Document} (distinct : Fields.Distinct d) :
    (p.apply d).Sublist d := by
  rw [p.apply_eq distinct]
  exact List.filter_sublist

theorem foldl_erase_sublist (fields : List String) (d : Document) :
    (fields.foldl Fields.erase d).Sublist d := by
  induction fields generalizing d with
  | nil => exact List.Sublist.refl d
  | cons field rest ih => exact (ih (Fields.erase d field)).trans (Fields.erase_sublist d field)

theorem runStage_reshapes {name : String} {operand : Value} (distinct : ∀ d ∈ docs, Fields.Distinct d)
    (plain : name ≠ "$count") (ran : runStage docs name operand = .ok rows) :
    Reshapes docs rows := by
  unfold runStage at ran
  split at ran
  · split at ran
    · exact .of_subperm (matching_sublist ran).subperm
    · cases ran
  · obtain ⟨n, _, taken⟩ := bind_ok.mp ran
    split at taken
    · cases taken
    · cases taken
      exact .of_subperm (List.take_sublist n docs).subperm
  · obtain ⟨n, _, dropped⟩ := bind_ok.mp ran
    cases dropped
    exact .of_subperm (List.drop_sublist n docs).subperm
  · obtain ⟨keys, _, sorted⟩ := bind_ok.mp ran
    cases sorted
    exact .of_subperm (sortBy_perm keys docs).subperm
  · obtain ⟨p, _, projected⟩ := bind_ok.mp ran
    cases projected
    exact .of_map fun d member => p.apply_sublist (distinct d member)
  · obtain ⟨fields, _, unset⟩ := bind_ok.mp ran
    cases unset
    exact .of_map fun d _ => foldl_erase_sublist fields d
  · exact absurd rfl plain
  · cases ran

theorem runStage_count {operand : Value} (ran : runStage docs "$count" operand = .ok rows) :
    ∃ field, rows = [[(field, .int (Int64.ofNat docs.length))]] := by
  cases operand with
  | string field =>
    change (if isPlainField field then .ok [[(field, .int (Int64.ofNat docs.length))]]
      else .error _) = Except.ok rows at ran
    split at ran
    · cases ran
      exact ⟨field, rfl⟩
    · cases ran
  | _ => cases ran

theorem applyStage_ok {stage : Document} :
    applyStage docs stage = .ok rows ↔
      ∃ name operand, stage = [(name, operand)] ∧ runStage docs name operand = .ok rows := by
  unfold applyStage
  split
  · rename_i name operand
    constructor
    · intro ran
      exact ⟨name, operand, rfl, ran⟩
    · rintro ⟨_, _, same, ran⟩
      cases same
      exact ran
  · rename_i other
    constructor
    · intro ran
      cases ran
    · rintro ⟨name, operand, rfl, _⟩
      exact absurd rfl (other name operand)

def Counts (stage : Document) : Prop := "$count" ∈ Fields.keys stage

theorem applyStage_reshapes {stage : Document} (distinct : ∀ d ∈ docs, Fields.Distinct d)
    (plain : ¬ Counts stage) (ran : applyStage docs stage = .ok rows) : Reshapes docs rows := by
  obtain ⟨name, operand, rfl, ran⟩ := applyStage_ok.mp ran
  refine runStage_reshapes distinct ?_ ran
  rintro rfl
  exact plain List.mem_cons_self

theorem applyStage_count {stage : Document} (counts : Counts stage)
    (ran : applyStage docs stage = .ok rows) :
    ∃ field, rows = [[(field, .int (Int64.ofNat docs.length))]] := by
  obtain ⟨name, operand, rfl, ran⟩ := applyStage_ok.mp ran
  cases List.mem_singleton.mp counts
  exact runStage_count ran

/-- What each stage keeps, a run keeps. -/
theorem run_preserves {P : List Document → Prop} {stages : List Document}
    (step : ∀ stage ∈ stages, ∀ docs rows, P docs → applyStage docs stage = .ok rows → P rows)
    (start : P docs) (ran : run docs stages = .ok rows) : P rows :=
  foldlM_preserves step start ran

end PolicyGate.Pipeline
