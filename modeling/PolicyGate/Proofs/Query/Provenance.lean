import Mathlib.Algebra.Group.Nat.Defs
import Mathlib.Data.List.FinRange
import PolicyGate.Proofs.Pipeline.Reshaping
import PolicyGate.Proofs.Query.Compiled

/-!
Where the rows of an answer come from. Whatever stages a client asks for, each row is part of a stored
document that a grant allows, no two rows are parts of the same one, and of the other documents no more
is told than a number that counts allowed ones.
-/
namespace PolicyGate.Pipeline

open Outcomes

variable {docs rows after : List Document}

/-- Each row is part of a document that is good, and no two are parts of the same one. -/
def Drawn (good : Document → Prop) (docs rows : List Document) : Prop :=
  ∃ places : List (Fin docs.length), places.Nodup ∧
    List.Forall₂ (fun row i => good docs[i] ∧ row.Sublist docs[i]) rows places

theorem forall₂_comp {R : α → β → Prop} {S : β → γ → Prop} {T : α → γ → Prop} {xs : List α}
    {ys : List β} {zs : List γ} (compose : ∀ x y z, R x y → S y z → T x z)
    (first : List.Forall₂ R xs ys) (second : List.Forall₂ S ys zs) : List.Forall₂ T xs zs := by
  induction first generalizing zs with
  | nil =>
    cases second
    exact .nil
  | cons related _ ih =>
    cases second with
    | cons related' later => exact .cons (compose _ _ _ related related') (ih later)

theorem Drawn.reshape {good : Document → Prop} (drawn : Drawn good docs rows)
    (reshaped : Reshapes rows after) : Drawn good docs after := by
  obtain ⟨places, nodup, each⟩ := drawn
  obtain ⟨kept, ⟨ordered, perm, sub⟩, trimmed⟩ := reshaped
  obtain ⟨left, subPlaces, eachLeft⟩ := forall₂_of_sublist sub each
  obtain ⟨moved, eachMoved, permPlaces⟩ := List.perm_comp_forall₂ perm.symm eachLeft
  refine ⟨moved, permPlaces.nodup_iff.mpr (subPlaces.nodup nodup), ?_⟩
  refine forall₂_comp ?_ trimmed eachMoved
  rintro row whole i part ⟨allowed, inside⟩
  exact ⟨allowed, part.trans inside⟩

theorem Drawn.distinct {good : Document → Prop} (drawn : Drawn good docs rows)
    (distinct : ∀ d ∈ docs, Fields.Distinct d) : ∀ row ∈ rows, Fields.Distinct row := by
  obtain ⟨places, _, each⟩ := drawn
  intro row member
  have flipped : List.Forall₂ (fun i row => good docs[i] ∧ row.Sublist docs[i]) places rows :=
    each.flip
  obtain ⟨i, _, _, part⟩ := exists_of_mem_right flipped member
  exact (distinct _ (List.getElem_mem i.isLt)).sublist part

theorem drawn_filter (keep : Document → Bool) (docs : List Document) :
    Drawn (fun d => keep d = true) docs (docs.filter keep) := by
  let places := (List.finRange docs.length).filter fun i => keep docs[i]
  have same : docs.filter keep = places.map fun i => docs[i] := by
    have all : (List.finRange docs.length).map (fun i => docs[i]) = docs := List.map_get_finRange docs
    conv_lhs => rw [← all, List.filter_map]
    rfl
  refine ⟨places, (List.nodup_finRange _).filter _, ?_⟩
  rw [same, List.forall₂_map_left_iff, List.forall₂_same]
  intro i member
  exact ⟨(List.mem_filter.mp member).2, List.Sublist.refl _⟩

/-- At most one row with at most one entry, which is a number up to a bound. -/
def Tally (most : Nat) (rows : List Document) : Prop :=
  rows.length ≤ 1 ∧ ∀ row ∈ rows, row.length ≤ 1 ∧
    ∀ entry ∈ row, ∃ n ≤ most, entry.2 = .int (Int64.ofNat n)

def Capped (most : Nat) (rows : List Document) : Prop :=
  rows.length ≤ most ∧ ∀ row ∈ rows, Fields.Distinct row

theorem distinct_of_length_le {row : Document} (short : row.length ≤ 1) : Fields.Distinct row := by
  cases row with
  | nil => exact List.nodup_nil
  | cons entry rest =>
    cases rest with
    | nil => exact List.nodup_singleton _
    | cons => simp at short

theorem Tally.capped {most : Nat} (positive : 1 ≤ most) (tally : Tally most rows) :
    Capped most rows :=
  ⟨Nat.le_trans tally.1 positive, fun row member => distinct_of_length_le (tally.2 row member).1⟩

theorem Tally.reshape {most : Nat} (tally : Tally most rows) (reshaped : Reshapes rows after) :
    Tally most after := by
  refine ⟨Nat.le_trans reshaped.length_le tally.1, ?_⟩
  intro row member
  obtain ⟨d, inside, part⟩ := reshaped.mem member
  obtain ⟨short, numbers⟩ := tally.2 d inside
  exact ⟨Nat.le_trans part.length_le short, fun entry found => numbers entry (part.subset found)⟩

theorem Capped.reshape {most : Nat} (capped : Capped most rows) (reshaped : Reshapes rows after) :
    Capped most after := by
  refine ⟨Nat.le_trans reshaped.length_le capped.1, ?_⟩
  intro row member
  obtain ⟨d, inside, part⟩ := reshaped.mem member
  exact (capped.2 d inside).sublist part

theorem tally_of_count {most : Nat} {stage : Document} (capped : Capped most docs)
    (counts : Counts stage) (ran : applyStage docs stage = .ok rows) : Tally most rows := by
  obtain ⟨field, rfl⟩ := applyStage_count counts ran
  refine ⟨Nat.le_refl 1, ?_⟩
  intro row member
  cases List.mem_singleton.mp member
  refine ⟨Nat.le_refl 1, ?_⟩
  intro entry found
  cases List.mem_singleton.mp found
  exact ⟨docs.length, capped.1, rfl⟩

theorem tally_step {most : Nat} (positive : 1 ≤ most) {stage : Document} (tally : Tally most docs)
    (ran : applyStage docs stage = .ok rows) : Tally most rows := by
  have capped := tally.capped positive
  by_cases counts : Counts stage
  · exact tally_of_count capped counts ran
  · exact tally.reshape (applyStage_reshapes capped.2 counts ran)

theorem capped_step {most : Nat} (positive : 1 ≤ most) {stage : Document} (capped : Capped most docs)
    (ran : applyStage docs stage = .ok rows) : Capped most rows := by
  by_cases counts : Counts stage
  · exact (tally_of_count capped counts ran).capped positive
  · exact capped.reshape (applyStage_reshapes capped.2 counts ran)

theorem drawn_run {good : Document → Prop} {stages : List Document}
    (distinct : ∀ d ∈ docs, Fields.Distinct d) (plain : ∀ stage ∈ stages, ¬ Counts stage)
    (drawn : Drawn good docs rows) (ran : run rows stages = .ok after) : Drawn good docs after := by
  refine run_preserves ?_ drawn ran
  intro stage member before now drawn ran
  exact drawn.reshape (applyStage_reshapes (drawn.distinct distinct) (plain stage member) ran)

/-- Whatever comes before a `$count` does not make more rows than there were, or than one; whatever
comes after it cannot add to the number. -/
theorem tally_run {most : Nat} {stages : List Document} (positive : 1 ≤ most)
    (counted : ∃ stage ∈ stages, Counts stage) (capped : Capped most docs)
    (ran : run docs stages = .ok rows) : Tally most rows := by
  obtain ⟨stage, member, counts⟩ := counted
  obtain ⟨before, later, rfl⟩ := List.append_of_mem member
  rw [run, List.foldlM_append] at ran
  obtain ⟨mid, ranBefore, ran⟩ := bind_ok.mp ran
  rw [List.foldlM_cons] at ran
  obtain ⟨number, now, ranLater⟩ := bind_ok.mp ran
  have midCapped : Capped most mid :=
    run_preserves (fun _ _ _ _ capped ran => capped_step positive capped ran) capped ranBefore
  have start := tally_of_count midCapped counts now
  exact run_preserves (fun _ _ _ _ tally ran => tally_step positive tally ran) start ranLater

end PolicyGate.Pipeline

namespace PolicyGate.Query

open Outcomes Pipeline

theorem run_assembled {grants : List Grant} {query : Option Value} {enforceRowLimit : Bool}
    {pipeline docs rows : List Document}
    (checked : ∀ g ∈ grants, Filter.check g.predicate = .ok ())
    (assembled : assemble grants query enforceRowLimit = .ok pipeline)
    (ran : run docs pipeline = .ok rows) :
    ∃ stages, pipeline = securityStage grants :: stages ∧
      run (visible grants docs) stages = .ok rows := by
  obtain ⟨_, _, clientStages, _, _, rfl⟩ := assemble_ok.mp assembled
  refine ⟨clientStages ++ limitStages enforceRowLimit grants, rfl, ?_⟩
  rw [List.cons_append, run_cons, securityStage_ok checked] at ran
  exact ran

theorem not_counts_securityStage (grants : List Grant) : ¬ Counts (securityStage grants) := by
  simp [Counts, securityStage]

/-- No row of an answer is made up. Without a `$count` each row is part of a document of its own that a
grant allows; with one, all that is told is how many rows there were, at most those that a grant allows
(or the one row of another `$count`). No list is so long that its length is not a number of 64 bits. -/
theorem no_row_made_up {grants : List Grant} {query : Option Value} {enforceRowLimit : Bool}
    {pipeline docs rows : List Document}
    (checked : ∀ g ∈ grants, Filter.check g.predicate = .ok ())
    (assembled : assemble grants query enforceRowLimit = .ok pipeline)
    (distinct : ∀ d ∈ docs, Fields.Distinct d) (ran : run docs pipeline = .ok rows) :
    ((∀ stage ∈ pipeline, "$count" ∉ Fields.keys stage) →
      ∃ places : List (Fin docs.length), places.Nodup ∧
        List.Forall₂ (fun row i => (∃ g ∈ grants, Filter.holds docs[i] g.predicate = .ok true) ∧
          row.Sublist docs[i]) rows places) ∧
      ((∃ stage ∈ pipeline, "$count" ∈ Fields.keys stage) →
        rows.length ≤ 1 ∧ ∀ row ∈ rows, row.length ≤ 1 ∧ ∀ entry ∈ row,
          ∃ n ≤ max 1 (visible grants docs).length, entry.2 = .int (Int64.ofNat n) ∧
            (docs.length < 2 ^ 63 → (Int64.ofNat n).toInt = n)) := by
  obtain ⟨stages, rfl, ranVisible⟩ := run_assembled checked assembled ran
  constructor
  · intro plain
    have start := drawn_filter (fun d => grants.any fun g => Filter.accepts g.predicate d) docs
    have later := fun stage member => plain stage (List.mem_cons_of_mem _ member)
    obtain ⟨places, nodup, each⟩ := drawn_run distinct later start ranVisible
    refine ⟨places, nodup, each.imp ?_⟩
    rintro row i ⟨allowed, part⟩
    obtain ⟨g, member, accepted⟩ := List.any_eq_true.mp allowed
    exact ⟨⟨g, member, Filter.accepts_iff.mp accepted⟩, part⟩
  · rintro ⟨stage, member, counts⟩
    have later : stage ∈ stages := by
      rcases List.mem_cons.mp member with rfl | later
      · exact absurd counts (not_counts_securityStage grants)
      · exact later
    have selected : (visible grants docs).Sublist docs := List.filter_sublist
    have capped : Capped (max 1 (visible grants docs).length) (visible grants docs) :=
      ⟨Nat.le_max_right _ _, fun d inside => distinct d (selected.subset inside)⟩
    obtain ⟨one, each⟩ := tally_run (Nat.le_max_left _ _) ⟨stage, later, counts⟩ capped ranVisible
    refine ⟨one, fun row inside => ⟨(each row inside).1, ?_⟩⟩
    intro entry found
    obtain ⟨n, bound, same⟩ := (each row inside).2 entry found
    refine ⟨n, bound, same, ?_⟩
    intro short
    have fewer := selected.length_le
    exact Int64.toInt_ofNat_of_lt (by omega)

def redTeam : List Grant :=
  [⟨"people", "gold", [("team", .string "red")], none⟩]

def teamRows : List Document :=
  [[("team", .string "red"), ("n", .int 1)], [("team", .string "blue"), ("n", .int 2)],
    [("team", .string "red"), ("n", .int 3)], [("team", .string "red"), ("n", .int 1)]]

/-- The largest numbers first, and of each row only the number. -/
def rankedNumbers : Value :=
  .array [.document [("$sort", .document [("n", .int (-1))])],
    .document [("$project", .document [("n", .int 1)])]]

def countedRows : Value := .array [.document [("$count", .string "rows")]]

theorem no_row_made_up_sample :
    (∃ pipeline rows, assemble redTeam (some rankedNumbers) false = .ok pipeline ∧
        run teamRows pipeline = .ok rows ∧ rows.length = 3 ∧
        ∃ places : List (Fin teamRows.length), places.Nodup ∧
          List.Forall₂ (fun row i =>
            (∃ g ∈ redTeam, Filter.holds teamRows[i] g.predicate = .ok true) ∧
              row.Sublist teamRows[i]) rows places) ∧
      ∃ pipeline rows, assemble redTeam (some countedRows) true = .ok pipeline ∧
        run teamRows pipeline = .ok rows ∧ rows.length = 1 ∧ ∀ row ∈ rows, ∀ entry ∈ row,
          ∃ n ≤ 3, entry.2 = .int (Int64.ofNat n) := by
  have checked : ∀ g ∈ redTeam, Filter.check g.predicate = .ok () := by
    intro g member
    cases List.mem_singleton.mp member
    rfl
  have distinct : ∀ d ∈ teamRows, Fields.Distinct d := by
    unfold Fields.Distinct
    decide
  constructor
  · have accepted : (assemble redTeam (some rankedNumbers) false).toOption.any (fun pipeline =>
        pipeline.all (fun stage => decide ("$count" ∉ Fields.keys stage)) &&
          (run teamRows pipeline).toOption.any fun rows => rows.length == 3) = true := by
      decide +kernel
    obtain ⟨pipeline, assembled, passed⟩ := toOption_any.mp accepted
    obtain ⟨plain, answered⟩ := Bool.and_eq_true_iff.mp passed
    obtain ⟨rows, ran, three⟩ := toOption_any.mp answered
    have drawn := (no_row_made_up checked assembled distinct ran).1 (by simpa using plain)
    exact ⟨pipeline, rows, assembled, ran, by simpa using three, drawn⟩
  · have accepted : (assemble redTeam (some countedRows) true).toOption.any (fun pipeline =>
        pipeline.any (fun stage => decide ("$count" ∈ Fields.keys stage)) &&
          (run teamRows pipeline).toOption.any fun rows => rows.length == 1) = true := by
      decide +kernel
    obtain ⟨pipeline, assembled, passed⟩ := toOption_any.mp accepted
    obtain ⟨counted, answered⟩ := Bool.and_eq_true_iff.mp passed
    obtain ⟨rows, ran, one⟩ := toOption_any.mp answered
    have told := (no_row_made_up checked assembled distinct ran).2 (by simpa using counted)
    refine ⟨pipeline, rows, assembled, ran, by simpa using one, ?_⟩
    intro row member entry found
    obtain ⟨n, bound, same, _⟩ := (told.2 row member).2 entry found
    exact ⟨n, bound, same⟩

end PolicyGate.Query
