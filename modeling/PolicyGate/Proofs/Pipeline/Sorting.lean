import PolicyGate.Proofs.Pipeline.Refusal
import PolicyGate.Proofs.Value.Order

/-!
Sorting is stable. Where the order of values is transitive on what stands at each path, the rows come
out in the order of the specification, and those that tie stay in their order from before. There is only
one such list of rows, so sorting by several fields is sorting by the last of them first.
-/
namespace PolicyGate.Pipeline

open Outcomes

variable {docs rows : List Document} {keys first later : List SortKey}

/-- The value to sort by. A missing one counts as null. -/
def sortValue (path : String) (d : Document) : Value := (d.resolve? path).getD .null

/-- The order for sorting is transitive on these values. -/
def TransitiveOn (values : List Value) : Prop :=
  ∀ a ∈ values, ∀ b ∈ values, ∀ c ∈ values,
    a.sortCompare b ≠ .gt → b.sortCompare c ≠ .gt → a.sortCompare c ≠ .gt

/-- A comparison turns round with its sides, and is transitive on some documents. -/
structure Ranks (docs : List Document) (order : Document → Document → Ordering) : Prop where
  swap : ∀ a b, order b a = (order a b).swap
  trans : ∀ a ∈ docs, ∀ b ∈ docs, ∀ c ∈ docs, order a b ≠ .gt → order b c ≠ .gt → order a c ≠ .gt

namespace Ranks

variable {order one two : Document → Document → Ordering} {a b c : Document}

theorem refl (ranks : Ranks docs order) (a : Document) : order a a = .eq := by
  have turned := ranks.swap a a
  cases same : order a a <;> simp_all

theorem antisymm (ranks : Ranks docs order) (up : order a b ≠ .gt) (down : order b a ≠ .gt) :
    order a b = .eq := by
  have turned := ranks.swap a b
  cases same : order a b <;> simp_all

theorem not_gt_of_not_lt (ranks : Ranks docs order) (other : order a b ≠ .lt) : order b a ≠ .gt := by
  rw [ranks.swap a b]
  cases same : order a b <;> simp_all

theorem not_tie (ranks : Ranks docs order) (inA : a ∈ docs) (inB : b ∈ docs) (inC : c ∈ docs)
    (tie : order a b = .eq) (less : order b c = .lt) : order a c ≠ .eq := by
  intro equal
  have back : order c a ≠ .gt := ranks.not_gt_of_not_lt (by simp [equal])
  have circle := ranks.trans c inC a inA b inB back (by simp [tie])
  rw [ranks.swap b c, less] at circle
  exact circle rfl

theorem constant : Ranks docs fun _ _ => .eq :=
  ⟨fun _ _ => rfl, fun _ _ _ _ _ _ up _ => up⟩

theorem opposite (ranks : Ranks docs order) : Ranks docs fun a b => (order a b).swap := by
  have turned (a b : Document) : (order a b).swap = order b a := (ranks.swap a b).symm
  simp only [turned]
  exact ⟨fun a b => ranks.swap b a, fun a inA b inB c inC up down =>
    ranks.trans c inC b inB a inA down up⟩

/-- Ties of a comparison are settled by another one. -/
theorem lexicographic (first : Ranks docs one) (second : Ranks docs two) :
    Ranks docs fun a b => (one a b).then (two a b) := by
  have not_gt (a b : Document) : (one a b).then (two a b) ≠ .gt ↔
      one a b ≠ .gt ∧ (one a b = .eq → two a b ≠ .gt) := by
    cases one a b <;> simp
  refine ⟨fun a b => ?_, fun a inA b inB c inC up further => ?_⟩
  · simp only [Ordering.swap_then, first.swap a b, second.swap a b]
  · obtain ⟨up, settled⟩ := (not_gt a b).mp up
    obtain ⟨further, settled'⟩ := (not_gt b c).mp further
    refine (not_gt a c).mpr ⟨first.trans a inA b inB c inC up further, fun tie => ?_⟩
    -- A tie of the outer two is a tie with the middle one.
    have back : one c a ≠ .gt := first.not_gt_of_not_lt (by simp [tie])
    have left := first.antisymm up (first.trans b inB c inC a inA further back)
    have right := first.antisymm further (first.trans c inC a inA b inB back up)
    exact second.trans a inA b inB c inC (settled left) (settled' right)

theorem of_perm (ranks : Ranks docs order) (perm : rows.Perm docs) : Ranks rows order :=
  ⟨ranks.swap, fun a inA b inB c inC =>
    ranks.trans a (perm.mem_iff.mp inA) b (perm.mem_iff.mp inB) c (perm.mem_iff.mp inC)⟩

end Ranks

theorem compareOptional_eq (a b : Option Value) :
    compareOptional a b = (a.getD .null).sortCompare (b.getD .null) := by
  cases a with
  | none => cases b with
    | none => rfl
    | some w => cases w <;> rfl
  | some v => cases b with
    | none => cases v <;> rfl
    | some w => rfl

theorem SortKey.compare_eq (k : SortKey) (a b : Document) :
    k.compare a b = if k.ascending then (sortValue k.path a).sortCompare (sortValue k.path b)
      else ((sortValue k.path a).sortCompare (sortValue k.path b)).swap := by
  rw [SortKey.compare, compareOptional_eq]
  rfl

theorem ranks_key {k : SortKey} (transitive : TransitiveOn (docs.map (sortValue k.path))) :
    Ranks docs k.compare := by
  have upward : Ranks docs fun a b => (sortValue k.path a).sortCompare (sortValue k.path b) := by
    refine ⟨fun a b => Value.sortCompare_swap _ _, fun a inA b inB c inC => ?_⟩
    exact transitive _ (List.mem_map_of_mem inA) _ (List.mem_map_of_mem inB) _
      (List.mem_map_of_mem inC)
  have same : k.compare = fun a b => if k.ascending then _ else _ :=
    funext fun a => funext fun b => k.compare_eq a b
  rw [same]
  cases k.ascending with
  | true => exact upward
  | false => exact upward.opposite

theorem ranks_compareBy (transitive : ∀ k ∈ keys, TransitiveOn (docs.map (sortValue k.path))) :
    Ranks docs (compareBy keys) := by
  induction keys with
  | nil => exact .constant
  | cons k rest ih =>
    have later := ih fun other member => transitive other (List.mem_cons_of_mem k member)
    exact (ranks_key (transitive k List.mem_cons_self)).lexicographic later

def ties (keys : List SortKey) (d e : Document) : Bool := compareBy keys d e == .eq

section Insertion

variable (ranks : Ranks docs (compareBy keys)) {d e : Document} {sorted : List Document}
  (inside : ∀ a ∈ sorted, a ∈ docs)
include ranks inside

theorem insertDescending_ordered (member : d ∈ docs)
    (ordered : sorted.Pairwise fun a b => compareBy keys b a ≠ .gt) :
    (insertDescending keys d sorted).Pairwise fun a b => compareBy keys b a ≠ .gt := by
  induction sorted with
  | nil => exact List.pairwise_singleton _ d
  | cons last rest ih =>
    obtain ⟨atLast, atRest⟩ := List.forall_mem_cons.mp inside
    obtain ⟨below, others⟩ := List.pairwise_cons.mp ordered
    unfold insertDescending
    split
    · rename_i less
      refine List.pairwise_cons.mpr ⟨fun a moved => ?_, ih atRest others⟩
      rcases List.mem_cons.mp ((insertDescending_perm keys d rest).mem_iff.mp moved) with rfl | old
      · simp [less]
      · exact below a old
    · rename_i other
      have above := ranks.not_gt_of_not_lt other
      refine List.pairwise_cons.mpr ⟨fun a old => ?_, ordered⟩
      rcases List.mem_cons.mp old with rfl | old
      · exact above
      · exact ranks.trans a (atRest a old) last atLast d member (below a old) above

/-- No document is put past one that it ties with. -/
theorem filter_insertDescending (memberD : d ∈ docs) (memberE : e ∈ docs) :
    (insertDescending keys d sorted).filter (ties keys e) = (d :: sorted).filter (ties keys e) := by
  induction sorted with
  | nil => rfl
  | cons last rest ih =>
    obtain ⟨atLast, atRest⟩ := List.forall_mem_cons.mp inside
    unfold insertDescending
    split
    · rename_i less
      simp only [List.filter_cons, ih atRest]
      by_cases tied : compareBy keys e d = .eq
      · have apart := ranks.not_tie memberE memberD atLast tied less
        simp [ties, tied, apart]
      · simp [ties, tied]
    · rfl

end Insertion

theorem foldl_insertDescending (ranks : Ranks docs (compareBy keys)) {unsorted sorted : List Document}
    (fresh : ∀ a ∈ unsorted, a ∈ docs) (inside : ∀ a ∈ sorted, a ∈ docs)
    (ordered : sorted.Pairwise fun a b => compareBy keys b a ≠ .gt) :
    (unsorted.foldl (fun sorted d => insertDescending keys d sorted) sorted).Pairwise
        (fun a b => compareBy keys b a ≠ .gt) ∧
      ∀ e ∈ docs, (unsorted.foldl (fun sorted d => insertDescending keys d sorted) sorted).filter
        (ties keys e) = (unsorted.reverse ++ sorted).filter (ties keys e) := by
  induction unsorted generalizing sorted with
  | nil => exact ⟨ordered, fun e _ => rfl⟩
  | cons d rest ih =>
    obtain ⟨member, others⟩ := List.forall_mem_cons.mp fresh
    have inside' : ∀ a ∈ insertDescending keys d sorted, a ∈ docs := by
      intro a moved
      rcases List.mem_cons.mp ((insertDescending_perm keys d sorted).mem_iff.mp moved) with rfl | old
      · exact member
      · exact inside a old
    obtain ⟨inOrder, kept⟩ :=
      ih others inside' (insertDescending_ordered ranks inside member ordered)
    refine ⟨inOrder, fun e memberE => ?_⟩
    rw [List.foldl_cons, kept e memberE, List.filter_append,
      filter_insertDescending ranks inside member memberE, ← List.filter_append,
      List.reverse_cons, List.append_assoc, List.singleton_append]

theorem sortBy_ordered (ranks : Ranks docs (compareBy keys)) :
    (sortBy keys docs).Pairwise fun a b => compareBy keys a b ≠ .gt :=
  List.pairwise_reverse.mpr (foldl_insertDescending ranks (fun _ h => h) (by simp) .nil).1

theorem filter_sortBy (ranks : Ranks docs (compareBy keys)) {e : Document} (member : e ∈ docs) :
    (sortBy keys docs).filter (ties keys e) = docs.filter (ties keys e) := by
  have kept := (foldl_insertDescending ranks (fun _ h => h) (by simp) .nil).2 e member
  rw [sortBy, List.filter_reverse, kept, List.append_nil, ← List.filter_reverse, List.reverse_reverse]

/-- Two lists in order are equal if they hold the same of each class of ties, in the same order. -/
theorem eq_of_stable (ranks : Ranks docs (compareBy keys)) {xs ys : List Document}
    (perm : xs.Perm ys) (sortedX : xs.Pairwise fun a b => compareBy keys a b ≠ .gt)
    (sortedY : ys.Pairwise fun a b => compareBy keys a b ≠ .gt)
    (same : ∀ e ∈ xs, xs.filter (ties keys e) = ys.filter (ties keys e)) : xs = ys := by
  induction xs generalizing ys with
  | nil => exact perm.nil_eq
  | cons x rest ih =>
    cases ys with
    | nil => exact perm.eq_nil
    | cons y others =>
      obtain ⟨leastX, orderedX⟩ := List.pairwise_cons.mp sortedX
      have leastY := (List.pairwise_cons.mp sortedY).1
      have up : compareBy keys x y ≠ .gt := by
        rcases List.mem_cons.mp (perm.mem_iff.mpr List.mem_cons_self) with rfl | inside
        · simp [ranks.refl]
        · exact leastX y inside
      have down : compareBy keys y x ≠ .gt := by
        rcases List.mem_cons.mp (perm.mem_iff.mp List.mem_cons_self) with rfl | inside
        · simp [ranks.refl]
        · exact leastY x inside
      have tie := ranks.antisymm up down
      have heads := same x List.mem_cons_self
      simp only [List.filter_cons, ties, ranks.refl, tie, beq_self_eq_true, if_true] at heads
      obtain rfl := (List.cons.inj heads).1
      refine congrArg (x :: ·) (ih perm.cons_inv orderedX (List.pairwise_cons.mp sortedY).2 ?_)
      intro e inside
      have whole := same e (List.mem_cons_of_mem x inside)
      simp only [List.filter_cons] at whole
      split at whole
      · exact (List.cons.inj whole).2
      · exact whole

theorem compareBy_append (first later : List SortKey) :
    compareBy (first ++ later) = fun a b => (compareBy first a b).then (compareBy later a b) := by
  funext a b
  induction first with
  | nil => rfl
  | cons k rest ih => exact (congrArg (k.compare a b).then ih).trans (Ordering.then_assoc _ _ _).symm

theorem ties_append (first later : List SortKey) (e : Document) :
    ties (first ++ later) e = fun a => ties later e a && ties first e a := by
  funext a
  simp only [ties, compareBy_append]
  cases compareBy first e a <;> simp

/-- The keys of a specification may be split: those that come first are sorted by last. -/
theorem sortBy_sortBy (ranks : Ranks docs (compareBy first)) (ranks' : Ranks docs (compareBy later)) :
    sortBy first (sortBy later docs) = sortBy (first ++ later) docs := by
  have both : Ranks docs (compareBy (first ++ later)) := by
    rw [compareBy_append]
    exact ranks.lexicographic ranks'
  have inner := sortBy_perm later docs
  have moved := ranks.of_perm inner
  have outer := sortBy_perm first (sortBy later docs)
  refine eq_of_stable both ((outer.trans inner).trans (sortBy_perm _ docs).symm) ?_
    (sortBy_ordered both) ?_
  · rw [List.pairwise_iff_forall_sublist]
    intro a b pair
    have up := List.pairwise_iff_forall_sublist.mp (sortBy_ordered moved) pair
    simp only [compareBy_append]
    cases order : compareBy first a b with
    | lt => simp [Ordering.then]
    | gt => exact absurd order up
    | eq =>
      -- What ties by the first keys stands as it did after the inner sort.
      have member : a ∈ sortBy later docs := outer.mem_iff.mp (pair.subset List.mem_cons_self)
      have before : [a, b].Sublist (sortBy later docs) := by
        have kept := pair.filter (ties first a)
        rw [filter_sortBy moved member] at kept
        have whole : [a, b].filter (ties first a) = [a, b] := by simp [ties, ranks.refl, order]
        rw [whole] at kept
        exact kept.trans List.filter_sublist
      exact List.pairwise_iff_forall_sublist.mp (sortBy_ordered ranks') before
  · intro e inside
    have member := outer.mem_iff.mp inside
    have original := inner.mem_iff.mp member
    rw [filter_sortBy both original, ties_append, ← List.filter_filter, ← List.filter_filter,
      filter_sortBy moved member, List.filter_comm, filter_sortBy ranks' original, List.filter_comm]

/-- A field of a specification is sorted upwards, unless it is given as `-1`. -/
def SortKey.ofEntry (entry : String × Value) : SortKey :=
  ⟨entry.1, entry.2.integer? ≠ some (-1)⟩

theorem sortKeys_eq {directions : Document} (given : directions ≠ [])
    (directed : ∀ entry ∈ directions, entry.2.integer? = some 1 ∨ entry.2.integer? = some (-1)) :
    sortKeys (.document directions) = .ok (directions.map SortKey.ofEntry) := by
  have each : directions.mapM (fun entry => sortKey entry.1 entry.2) =
      .ok (directions.map SortKey.ofEntry) := by
    rw [mapM_ok, List.forall₂_map_right_iff, List.forall₂_same]
    intro entry member
    rcases directed entry member with up | down
    · simp [sortKey, SortKey.ofEntry, up]
    · simp [sortKey, SortKey.ofEntry, down]
  cases directions with
  | nil => exact absurd rfl given
  | cons entry rest => exact each

/-- The order in one field of a specification, reversed for `-1`. -/
def fieldOrder (entry : String × Value) (a b : Document) : Ordering :=
  let upward := (sortValue entry.1 a).sortCompare (sortValue entry.1 b)
  if entry.2.integer? = some (-1) then upward.swap else upward

/-- The first field that tells two documents apart puts the first one behind the second. -/
inductive Exceeds (a b : Document) : Document → Prop where
  | here {entry : String × Value} {rest : Document} :
      fieldOrder entry a b = .gt → Exceeds a b (entry :: rest)
  | later {entry : String × Value} {rest : Document} :
      fieldOrder entry a b = .eq → Exceeds a b rest → Exceeds a b (entry :: rest)

/-- No field of a specification tells the documents apart. -/
def tied (directions : Document) (d e : Document) : Bool :=
  directions.all fun entry => (sortValue entry.1 d).sortCompare (sortValue entry.1 e) == .eq

/-- The documents, each as often as before, none behind one that it exceeds, and those that tie in
their order from before. -/
structure StablySorted (directions : Document) (docs rows : List Document) : Prop where
  perm : rows.Perm docs
  ordered : rows.Pairwise fun a b => ¬ Exceeds a b directions
  stable : ∀ d ∈ docs, rows.filter (tied directions d) = docs.filter (tied directions d)

theorem compare_ofEntry (entry : String × Value) (a b : Document) :
    (SortKey.ofEntry entry).compare a b = fieldOrder entry a b := by
  by_cases down : entry.2.integer? = some (-1) <;>
    simp [SortKey.compare_eq, SortKey.ofEntry, fieldOrder, down]

theorem compareBy_eq_gt {directions a b : Document} :
    compareBy (directions.map SortKey.ofEntry) a b = .gt ↔ Exceeds a b directions := by
  induction directions with
  | nil => exact ⟨nofun, nofun⟩
  | cons entry rest ih =>
    change ((SortKey.ofEntry entry).compare a b).then (compareBy (rest.map .ofEntry) a b) = .gt ↔ _
    rw [compare_ofEntry, Ordering.then_eq_gt, ih]
    constructor
    · rintro (up | ⟨tie, up⟩)
      · exact .here up
      · exact .later tie up
    · rintro (up | ⟨tie, up⟩)
      · exact .inl up
      · exact .inr ⟨tie, up⟩

theorem ties_ofEntry (directions : Document) :
    ties (directions.map SortKey.ofEntry) = tied directions := by
  funext d e
  induction directions with
  | nil => rfl
  | cons entry rest ih =>
    have head : (fieldOrder entry d e == .eq) =
        ((sortValue entry.1 d).sortCompare (sortValue entry.1 e) == .eq) := by
      unfold fieldOrder
      split
      · cases (sortValue entry.1 d).sortCompare (sortValue entry.1 e) <;> rfl
      · rfl
    have both (one two : Ordering) : (one.then two == .eq) = (one == .eq && two == .eq) := by
      cases one <;> simp
    change (((SortKey.ofEntry entry).compare d e).then _ == .eq) = _
    rw [both, compare_ofEntry, head]
    exact congrArg (_ && ·) ih

def arrange (directions : Document) : Document := [("$sort", .document directions)]

section Specification

variable {directions : Document} (given : directions ≠ [])
  (directed : ∀ entry ∈ directions, entry.2.integer? = some 1 ∨ entry.2.integer? = some (-1))
  (transitive : ∀ entry ∈ directions, TransitiveOn (docs.map (sortValue entry.1)))

include given directed in
theorem applyStage_arrange (docs : List Document) :
    applyStage docs (arrange directions) = .ok (sortBy (directions.map SortKey.ofEntry) docs) :=
  bind_ok.mpr ⟨_, sortKeys_eq given directed, rfl⟩

include transitive

theorem ranks_directions : Ranks docs (compareBy (directions.map SortKey.ofEntry)) := by
  apply ranks_compareBy
  intro k member
  obtain ⟨entry, inside, rfl⟩ := List.mem_map.mp member
  exact transitive entry inside

theorem stablySorted_sortBy :
    StablySorted directions docs (sortBy (directions.map SortKey.ofEntry) docs) := by
  have ranks := ranks_directions transitive
  refine ⟨sortBy_perm _ docs, ?_, fun d member => ?_⟩
  · exact (sortBy_ordered ranks).imp fun up exceeds => up (compareBy_eq_gt.mpr exceeds)
  · rw [← ties_ofEntry]
    exact filter_sortBy ranks member

theorem StablySorted.unique (sorted : StablySorted directions docs rows) {others : List Document}
    (sorted' : StablySorted directions docs others) : others = rows := by
  have perm := sorted'.perm.trans sorted.perm.symm
  have inOrder {list : List Document} (s : StablySorted directions docs list) :
      list.Pairwise fun a b => compareBy (directions.map SortKey.ofEntry) a b ≠ .gt :=
    s.ordered.imp fun up exceeds => up (compareBy_eq_gt.mp exceeds)
  refine eq_of_stable (ranks_directions transitive) perm (inOrder sorted') (inOrder sorted) ?_
  intro d inside
  have member := sorted'.perm.mem_iff.mp inside
  rw [ties_ofEntry, sorted'.stable d member, sorted.stable d member]

include given directed

/-- A valid `$sort` succeeds, with the one list of rows that is stably sorted. A specification may be
cut in two stages: its last fields first, then the others. -/
theorem sort_stable :
    (∃ rows, applyStage docs (arrange directions) = .ok rows ∧ StablySorted directions docs rows ∧
        ∀ others, StablySorted directions docs others → others = rows) ∧
      ∀ first later, directions = first ++ later → first ≠ [] → later ≠ [] →
        run docs [arrange later, arrange first] = applyStage docs (arrange directions) := by
  constructor
  · have sorted := stablySorted_sortBy transitive
    exact ⟨_, applyStage_arrange given directed docs, sorted, fun others => sorted.unique transitive⟩
  · rintro first later rfl someFirst someLater
    have split := List.forall_mem_append.mp transitive
    have runs := List.forall_mem_append.mp directed
    have twice := sortBy_sortBy (ranks_directions split.1) (ranks_directions split.2)
    rw [run_cons, applyStage_arrange someLater runs.2, applyStage_arrange given directed,
      List.map_append, ← twice]
    exact (run_cons _ _ _).trans (congrArg (· >>= _) (applyStage_arrange someFirst runs.1 _))

end Specification

def roster : List Document :=
  [[("_id", .int 1), ("team", .string "red"), ("age", .int 30)],
    [("_id", .int 2), ("age", .int 25)],
    [("_id", .int 3), ("team", .null), ("age", .double ⟨0x4039000000000000⟩)],
    [("_id", .int 4), ("team", .string "red"), ("age", .int 41)]]

def byTeam : Document := [("team", .int 1), ("age", .int (-1))]

/-- The second and the third tie: no team is null, and `25` is `25.0`. -/
theorem sort_stable_roster :
    (∀ entry ∈ byTeam, TransitiveOn (roster.map (sortValue entry.1))) ∧
      (∃ rows, applyStage roster (arrange byTeam) = .ok rows ∧ StablySorted byTeam roster rows ∧
        rows.map (fun d => (Fields.get? d "_id").bind Value.integer?) =
          [some 2, some 3, some 4, some 1]) ∧
      run roster [arrange [("age", .int (-1))], arrange [("team", .int 1)]] =
        applyStage roster (arrange byTeam) := by
  have given : byTeam ≠ [] := List.cons_ne_nil _ _
  have directed : ∀ entry ∈ byTeam,
      entry.2.integer? = some 1 ∨ entry.2.integer? = some (-1) := by
    decide
  have transitive : ∀ entry ∈ byTeam, TransitiveOn (roster.map (sortValue entry.1)) := by
    unfold TransitiveOn
    decide +kernel
  have answered : (applyStage roster (arrange byTeam)).toOption.any (fun rows =>
      rows.map (fun d => (Fields.get? d "_id").bind Value.integer?) ==
        [some 2, some 3, some 4, some 1]) = true := by
    decide +kernel
  obtain ⟨⟨rows, ran, sorted, _⟩, cut⟩ := sort_stable given directed transitive
  rw [ran] at answered
  refine ⟨transitive, ⟨rows, ran, sorted, beq_iff_eq.mp answered⟩, ?_⟩
  exact cut [("team", .int 1)] [("age", .int (-1))] rfl (by simp) (by simp)

end PolicyGate.Pipeline
