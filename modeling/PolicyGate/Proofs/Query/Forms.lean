import PolicyGate.Proofs.Query.RowCap

/-!
The forms in which a client may ask for the same. A filter stands for the pipeline of that one filter, and
nothing, null and the empty pipeline for each other.
-/
namespace PolicyGate.Query

open Outcomes

variable {isAllowed : String → Bool}

theorem coerceItemsAt_congr {depth depth' : Nat} {items : List Value}
    (each : ∀ v ∈ items, coerceAt isAllowed depth v = coerceAt isAllowed depth' v) :
    coerceItemsAt isAllowed depth items = coerceItemsAt isAllowed depth' items := by
  induction items with
  | nil => rfl
  | cons v rest ih =>
    obtain ⟨first, others⟩ := List.forall_mem_cons.mp each
    rw [coerceItemsAt_cons, coerceItemsAt_cons, first, ih others]

theorem coerceEntriesAt_congr {depth depth' : Nat} {made entries : Document}
    (each : ∀ key v, (key, v) ∈ entries →
      coerceAt isAllowed depth v = coerceAt isAllowed depth' v) :
    coerceEntriesAt isAllowed depth made entries = coerceEntriesAt isAllowed depth' made entries := by
  induction entries generalizing made with
  | nil => rfl
  | cons entry rest ih =>
    obtain ⟨key, v⟩ := entry
    have first := each key v List.mem_cons_self
    have others (made : Document) := @ih made fun k u member => each k u (List.mem_cons_of_mem _ member)
    simp only [coerceEntriesAt_cons, first, others]

/-- No node of a value is too deep if the value stands at a depth. -/
def Within (depth : Nat) (v : Value) : Prop := ∀ k w, v.HasNode k w → depth + k ≤ maxDepth

theorem Within.shallow {depth : Nat} {v : Value} (within : Within depth v) : ¬ maxDepth < depth :=
  Nat.not_lt.mpr (within 0 v (.root v))

theorem Within.item {depth : Nat} {items : List Value} (within : Within depth (.array items))
    {v : Value} (member : v ∈ items) : Within (depth + 1) v := by
  intro k w node
  rw [Nat.add_right_comm]
  exact within (k + 1) w (.item member node)

theorem Within.entry {depth : Nat} {entries : Document} (within : Within depth (.document entries))
    {key : String} {v : Value} (member : (key, v) ∈ entries) : Within (depth + 1) v := by
  intro k w node
  rw [Nat.add_right_comm]
  exact within (k + 1) w (.entry member node)

/-- The depth at which a walk starts shows only where a node is too deep. -/
theorem coerceAt_depth {v : Value} {depth depth' : Nat} (within : Within depth v)
    (within' : Within depth' v) : coerceAt isAllowed depth v = coerceAt isAllowed depth' v := by
  induction v using Value.tree_induction generalizing depth depth' with
  | leaf v leaf =>
    rw [coerceAt_leaf isAllowed depth leaf, coerceAt_leaf isAllowed depth' leaf,
      if_neg within.shallow, if_neg within'.shallow]
  | array items ih =>
    have each (v : Value) (member : v ∈ items) :=
      ih v member (within.item member) (within'.item member)
    rw [coerceAt_array, coerceAt_array, if_neg within.shallow, if_neg within'.shallow,
      coerceItemsAt_congr each]
  | document entries ih =>
    have each (key : String) (v : Value) (member : (key, v) ∈ entries) :=
      ih key v member (within.entry member) (within'.entry member)
    rw [coerceAt_document, coerceAt_document, if_neg within.shallow, if_neg within'.shallow,
      coerceEntriesAt_congr each]

/-- The pipeline that selects by one filter. -/
def asPipeline (filter : Value) : Value := .array [.document [("$match", filter)]]

/-- A filter in a pipeline stands two levels deeper than by itself. -/
theorem sanitize_asPipeline (filter : Value) :
    sanitize (asPipeline filter) = (coerceAt isAllowedKey 2 filter).map asPipeline := by
  change coerceAt isAllowedKey 0 (asPipeline filter) = _
  rw [asPipeline, coerceAt_array, if_neg (by decide), coerceItemsAt_cons, coerceAt_document,
    if_neg (by decide), coerceEntriesAt_cons, if_pos isAllowedKey_match]
  cases coerceAt isAllowedKey 2 filter <;> rfl

theorem stages_asPipeline {entries : Document} (within : Within 2 (.document entries)) :
    sanitize (asPipeline (.document entries)) >>= stages =
      sanitize (.document entries) >>= stages := by
  have bare : sanitize (.document entries) = coerceAt isAllowedKey 2 (.document entries) := by
    refine coerceAt_depth (fun k w node => ?_) within
    have := within k w node
    omega
  rw [sanitize_asPipeline, ← bare]
  cases passed : sanitize (.document entries) with
  | error fault => rfl
  | ok clean =>
    obtain ⟨_, rfl⟩ := sanitize_ok.mp passed
    rfl

theorem assemble_congr {query query' : Option Value}
    (same : sanitize (orEmpty query) >>= stages = sanitize (orEmpty query') >>= stages)
    (grants : List Grant) (enforceRowLimit : Bool) :
    assemble grants query enforceRowLimit = assemble grants query' enforceRowLimit := by
  by_cases granted : grants = []
  · subst granted
    rfl
  · rw [assemble_eq granted, assemble_eq granted, same]

/-- A filter that leaves room for the two levels of a pipeline around it is compiled like the pipeline of
that one filter, faults included. A missing query and null are compiled like the empty pipeline. -/
theorem query_forms_agree (grants : List Grant) (enforceRowLimit : Bool) :
    (∀ filter : Document, (∀ k w, (Value.document filter).HasNode k w → k ≤ 254) →
      assemble grants (some (.document filter)) enforceRowLimit =
        assemble grants (some (.array [.document [("$match", .document filter)]]))
          enforceRowLimit) ∧
    assemble grants none enforceRowLimit = assemble grants (some (.array [])) enforceRowLimit ∧
    assemble grants (some .null) enforceRowLimit =
      assemble grants (some (.array [])) enforceRowLimit := by
  refine ⟨fun filter room => ?_, rfl, rfl⟩
  have within : Within 2 (.document filter) := by
    intro k w node
    have := room k w node
    simp only [maxDepth]
    omega
  apply assemble_congr
  exact (stages_asPipeline within).symm

/-- A filter that goes `n + 1` levels down. -/
def nested : Nat → Document
  | 0 => [("age", .int 40)]
  | n + 1 => [("$not", .document (nested n))]

theorem nested_levels {n k : Nat} {w : Value} (node : (Value.document (nested n)).HasNode k w) :
    k ≤ n + 1 := by
  induction n generalizing k with
  | zero =>
    cases node with
    | root => omega
    | entry member below =>
      cases List.mem_singleton.mp member
      have bottom := (Value.hasNode_leaf rfl).mp below
      omega
  | succ n ih =>
    cases node with
    | root => omega
    | entry member below =>
      cases List.mem_singleton.mp member
      have inside := ih below
      omega

theorem nested_bottom (n : Nat) : (Value.document (nested n)).HasNode (n + 1) (.int 40) := by
  induction n with
  | zero => exact .entry List.mem_cons_self (.root _)
  | succ n ih => exact .entry List.mem_cons_self ih

theorem query_forms_agree_nested :
    (Value.document (nested 253)).HasNode 254 (.int 40) ∧
      (∀ k w, (Value.document (nested 253)).HasNode k w → k ≤ 254) ∧
      assemble [⟨"people", "gold", [], some 10⟩] (some (.document (nested 253))) true =
        assemble [⟨"people", "gold", [], some 10⟩]
          (some (.array [.document [("$match", .document (nested 253))]])) true := by
  have room (k : Nat) (w : Value) (node : (Value.document (nested 253)).HasNode k w) : k ≤ 254 :=
    nested_levels node
  exact ⟨nested_bottom 253, room, (query_forms_agree _ true).1 (nested 253) room⟩

theorem Objection.of_fit {level : Nat} {node : Value} {fault : QueryFault}
    (objection : Objection isAllowed level node fault) (fit : Fit isAllowed node) :
    fault = .nestingTooDeep maxDepth := by
  cases objection with
  | depth => rfl
  | key member refused =>
    rw [fit _ _ member] at refused
    cases refused
  | literal literal unread =>
    have read := fit literal
    rw [unread] at read
    cases read

/-- One level less of room, and the forms part: the filter is compiled by itself, but as a pipeline it is
nested too deeply. -/
theorem query_forms_part {grants : List Grant} (granted : grants ≠ []) {filter : Document}
    (acceptable : Acceptable isAllowedKey 0 (.document filter)) {k : Nat} {w : Value}
    (node : (Value.document filter).HasNode k w) (deep : 254 < k) (enforceRowLimit : Bool) :
    (∃ pipeline, assemble grants (some (.document filter)) enforceRowLimit = .ok pipeline) ∧
      assemble grants (some (asPipeline (.document filter))) enforceRowLimit =
        .error (.nestingTooDeep maxDepth) := by
  constructor
  · have passes : sanitize (.document filter) = .ok _ := sanitize_ok.mpr ⟨acceptable, rfl⟩
    exact ⟨_, assemble_ok.mpr ⟨granted, _, _, passes, rfl, rfl⟩⟩
  · have stopped : coerceAt isAllowedKey 2 (.document filter) = .error (.nestingTooDeep maxDepth) := by
      cases walked : coerceAt isAllowedKey 2 (.document filter) with
      | ok clean =>
        have shallow := ((coerceAt_ok.mp walked).1 k w node).1
        simp only [maxDepth] at shallow
        omega
      | error fault =>
        obtain ⟨level, u, below, objection⟩ := coerceAt_error walked
        rw [objection.of_fit (acceptable level u below).2]
    have refused : sanitize (asPipeline (.document filter)) = .error (.nestingTooDeep maxDepth) := by
      rw [sanitize_asPipeline, stopped]
      rfl
    have asked : orEmpty (some (asPipeline (.document filter))) = asPipeline (.document filter) := rfl
    rw [assemble_eq granted, asked, refused]
    rfl

end PolicyGate.Query
