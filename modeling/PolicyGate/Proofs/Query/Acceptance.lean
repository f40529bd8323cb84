import PolicyGate.Query.Sanitize
import PolicyGate.Proofs.Outcomes
import PolicyGate.Proofs.Value.Nodes

/-!
What the walks over queries accept, and what they make of it: a tree passes if all of its nodes are
fit and none stands too deep, and the result is the tree with its date literals read.
-/
namespace PolicyGate.Query

/-- The result of a walk whose replacing carries no state. -/
def Walk.outcome (m : Walk Unit α) : Except QueryFault α := (m.run.run ()).1

@[simp] theorem outcome_pure (a : α) : Walk.outcome (pure a) = .ok a := rfl

@[simp] theorem outcome_bind (m : Walk Unit α) (next : α → Walk Unit β) :
    Walk.outcome (m >>= next) = m.outcome >>= fun a => (next a).outcome := by
  change (ExceptT.bindCont next (m.run.run ()).1 ()).1 = _
  unfold Walk.outcome
  cases (m.run.run ()).1 <;> rfl

theorem isAllowedKey_iff (key : String) :
    isAllowedKey key = true ↔ operatorMark ∉ key.toList ∨
      ∃ name ∈ allowedOperators ++ allowedStages,
        Text.sameIgnoringCase (Text.trim key) name = true := by
  rw [isAllowedKey, Bool.or_eq_true, Bool.not_eq_true', List.any_eq_true]
  simp only [List.contains_eq_mem, decide_eq_false_iff_not]

theorem isDateLiteral_iff (s : String) :
    isDateLiteral s = true ↔
      s.toList.head? = some dateMark ∧ s.toList.getLast? = some dateMark := by
  rw [isDateLiteral, Bool.and_eq_true, beq_iff_eq, beq_iff_eq]

def datedLeaf (leaf : Value) : Value :=
  match coerceLeaf leaf with
  | .ok v => v
  | .error _ => leaf

/-- A tree with its literals of dates read. -/
def dated (v : Value) : Value := v.mapLeaves datedLeaf

/-- What a walk asks of a node: of a document that its keys are allowed, of a string that it can be
read if it is a literal of a date. -/
def Fit (isAllowed : String → Bool) : Value → Prop
  | .document entries => ∀ key v, (key, v) ∈ entries → isAllowed key = true
  | .string s => isDateLiteral s = true → (Timestamp.read? (unmarked s)).isSome = true
  | _ => True

/-- All nodes of a tree that stands at a depth are fit, and none is too deep. -/
def Acceptable (isAllowed : String → Bool) (depth : Nat) (v : Value) : Prop :=
  ∀ k w, v.HasNode k w → depth + k ≤ maxDepth ∧ Fit isAllowed w

def coerceAt (isAllowed : String → Bool) (depth : Nat) (v : Value) : Except QueryFault Value :=
  (walk isAllowed (fun leaf => ExceptT.mk (pure (coerceLeaf leaf))) depth v).outcome

def coerceItemsAt (isAllowed : String → Bool) (depth : Nat) (items : List Value) :
    Except QueryFault (List Value) :=
  (walkItems isAllowed (fun leaf => ExceptT.mk (pure (coerceLeaf leaf))) depth items).outcome

def coerceEntriesAt (isAllowed : String → Bool) (depth : Nat) (made entries : Document) :
    Except QueryFault Document :=
  (walkEntries isAllowed (fun leaf => ExceptT.mk (pure (coerceLeaf leaf))) depth made
    entries).outcome

theorem coerceAt_leaf (isAllowed : String → Bool) (depth : Nat) {v : Value}
    (leaf : v.isLeaf = true) :
    coerceAt isAllowed depth v =
      if maxDepth < depth then .error (.nestingTooDeep maxDepth) else coerceLeaf v := by
  cases v with
  | array items => cases leaf
  | document entries => cases leaf
  | _ =>
    unfold coerceAt walk
    split <;> rfl

theorem coerceAt_array (isAllowed : String → Bool) (depth : Nat) (items : List Value) :
    coerceAt isAllowed depth (.array items) =
      if maxDepth < depth then .error (.nestingTooDeep maxDepth)
      else (coerceItemsAt isAllowed (depth + 1) items).map .array := by
  unfold coerceAt walk coerceItemsAt
  split
  · rfl
  · rw [outcome_bind]
    cases Walk.outcome _ <;> rfl

theorem coerceAt_document (isAllowed : String → Bool) (depth : Nat) (entries : Document) :
    coerceAt isAllowed depth (.document entries) =
      if maxDepth < depth then .error (.nestingTooDeep maxDepth)
      else (coerceEntriesAt isAllowed (depth + 1) [] entries).map .document := by
  unfold coerceAt walk coerceEntriesAt
  split
  · rfl
  · rw [outcome_bind]
    cases Walk.outcome _ <;> rfl

theorem coerceItemsAt_cons (isAllowed : String → Bool) (depth : Nat) (v : Value)
    (rest : List Value) :
    coerceItemsAt isAllowed depth (v :: rest) =
      coerceAt isAllowed depth v >>= fun w =>
        (coerceItemsAt isAllowed depth rest).map (w :: ·) := by
  unfold coerceItemsAt coerceAt
  rw [walkItems, outcome_bind]
  congr 1
  funext w
  rw [outcome_bind]
  cases Walk.outcome _ <;> rfl

theorem coerceEntriesAt_cons (isAllowed : String → Bool) (depth : Nat) (made : Document)
    (key : String) (v : Value) (rest : Document) :
    coerceEntriesAt isAllowed depth made ((key, v) :: rest) =
      if isAllowed key then
        coerceAt isAllowed depth v >>= fun w =>
          coerceEntriesAt isAllowed depth (Fields.insert key w made) rest
      else .error (.unsafeOperator key) := by
  unfold coerceEntriesAt coerceAt
  rw [walkEntries]
  split
  · rw [outcome_bind]
  · rfl

theorem within_depth {depth : Nat} {x : Except QueryFault α} {a : α} :
    (if maxDepth < depth then .error (.nestingTooDeep maxDepth) else x) = .ok a ↔
      depth ≤ maxDepth ∧ x = .ok a := by
  by_cases deep : maxDepth < depth
  · simp only [if_pos deep]
    constructor
    · intro h
      cases h
    · intro h
      omega
  · simp only [if_neg deep]
    exact ⟨fun h => ⟨by omega, h⟩, And.right⟩

theorem coerceLeaf_ok (isAllowed : String → Bool) {v w : Value} (leaf : v.isLeaf = true) :
    coerceLeaf v = .ok w ↔ Fit isAllowed v ∧ datedLeaf v = w := by
  cases v with
  | array items => cases leaf
  | document entries => cases leaf
  | string s =>
    simp only [Fit, datedLeaf, coerceLeaf]
    by_cases literal : isDateLiteral s = true
    · cases read : Timestamp.read? (unmarked s) <;> simp [literal]
    · simp [literal]
  | _ => simp [Fit, datedLeaf, coerceLeaf]

theorem acceptable_leaf {isAllowed : String → Bool} {depth : Nat} {v : Value}
    (leaf : v.isLeaf = true) :
    Acceptable isAllowed depth v ↔ depth ≤ maxDepth ∧ Fit isAllowed v := by
  simp only [Acceptable, Value.hasNode_leaf leaf]
  constructor
  · exact fun h => h 0 v ⟨rfl, rfl⟩
  · rintro h k w ⟨rfl, rfl⟩
    exact h

theorem acceptable_array {isAllowed : String → Bool} {depth : Nat} {items : List Value} :
    Acceptable isAllowed depth (.array items) ↔
      depth ≤ maxDepth ∧ ∀ v ∈ items, Acceptable isAllowed (depth + 1) v := by
  simp only [Acceptable, Value.forall_hasNode_array, Fit, and_true, Nat.add_zero,
    Nat.add_assoc, Nat.add_comm 1]

theorem acceptable_document {isAllowed : String → Bool} {depth : Nat} {entries : Document} :
    Acceptable isAllowed depth (.document entries) ↔
      depth ≤ maxDepth ∧ ∀ key v, (key, v) ∈ entries →
        isAllowed key = true ∧ Acceptable isAllowed (depth + 1) v := by
  simp only [Acceptable, Value.forall_hasNode_document, Fit, Nat.add_zero, Nat.add_assoc,
    Nat.add_comm 1]
  constructor
  · rintro ⟨⟨shallow, allowed⟩, inside⟩
    exact ⟨shallow, fun key v member => ⟨allowed key v member, inside key v member⟩⟩
  · rintro ⟨shallow, inside⟩
    exact ⟨⟨shallow, fun key v member => (inside key v member).1⟩,
      fun key v member => (inside key v member).2⟩

theorem coerceItemsAt_ok {isAllowed : String → Bool} {depth : Nat} {items : List Value}
    (each : ∀ v ∈ items, ∀ w,
      coerceAt isAllowed depth v = .ok w ↔ Acceptable isAllowed depth v ∧ dated v = w)
    {made : List Value} :
    coerceItemsAt isAllowed depth items = .ok made ↔
      (∀ v ∈ items, Acceptable isAllowed depth v) ∧ Value.mapItems datedLeaf items = made := by
  induction items generalizing made with
  | nil => simp [coerceItemsAt, walkItems, Value.mapItems]
  | cons v rest ih =>
    have later := @ih fun u member => each u (List.mem_cons_of_mem v member)
    rw [coerceItemsAt_cons, Outcomes.bind_ok]
    simp only [Outcomes.map_ok, each v List.mem_cons_self, later, Value.mapItems,
      List.forall_mem_cons]
    constructor
    · rintro ⟨_, ⟨first, rfl⟩, _, ⟨others, rfl⟩, rfl⟩
      exact ⟨⟨first, others⟩, rfl⟩
    · rintro ⟨⟨first, others⟩, rfl⟩
      exact ⟨_, ⟨first, rfl⟩, _, ⟨others, rfl⟩, rfl⟩

theorem coerceEntriesAt_ok {isAllowed : String → Bool} {depth : Nat} {entries : Document}
    (each : ∀ key v, (key, v) ∈ entries → ∀ w,
      coerceAt isAllowed depth v = .ok w ↔ Acceptable isAllowed depth v ∧ dated v = w)
    {made result : Document} :
    coerceEntriesAt isAllowed depth made entries = .ok result ↔
      (∀ key v, (key, v) ∈ entries → isAllowed key = true ∧ Acceptable isAllowed depth v) ∧
        (Value.mapEntries datedLeaf entries).foldl (fun fields (key, v) => Fields.insert key v fields)
          made = result := by
  induction entries generalizing made with
  | nil => simp [coerceEntriesAt, walkEntries, Value.mapEntries]
  | cons entry rest ih =>
    obtain ⟨key, v⟩ := entry
    have later := @ih fun k u member => each k u (List.mem_cons_of_mem _ member)
    rw [coerceEntriesAt_cons]
    by_cases allowed : isAllowed key = true
    · rw [if_pos allowed, Outcomes.bind_ok]
      simp only [each key v List.mem_cons_self, later, Value.mapEntries, List.foldl_cons]
      constructor
      · rintro ⟨_, ⟨first, rfl⟩, others, rfl⟩
        refine ⟨?_, rfl⟩
        intro k u member
        rcases List.mem_cons.mp member with same | member
        · cases same
          exact ⟨allowed, first⟩
        · exact others k u member
      · rintro ⟨all, rfl⟩
        exact ⟨_, ⟨(all key v List.mem_cons_self).2, rfl⟩,
          fun k u member => all k u (List.mem_cons_of_mem _ member), rfl⟩
    · rw [if_neg allowed]
      constructor
      · intro h
        cases h
      · rintro ⟨all, _⟩
        exact absurd (all key v List.mem_cons_self).1 allowed

/-- A walk passes exactly the acceptable trees, and only reads their literals of dates. -/
theorem coerceAt_ok {isAllowed : String → Bool} {depth : Nat} {v w : Value} :
    coerceAt isAllowed depth v = .ok w ↔ Acceptable isAllowed depth v ∧ dated v = w := by
  induction v using Value.tree_induction generalizing depth w with
  | leaf v leaf =>
    rw [coerceAt_leaf isAllowed depth leaf, within_depth, coerceLeaf_ok isAllowed leaf,
      acceptable_leaf leaf, dated, Value.mapLeaves_leaf datedLeaf leaf, and_assoc]
  -- The depth is general: what is inside stands one level deeper.
  | array items ih =>
    rw [coerceAt_array, within_depth, Outcomes.map_ok, acceptable_array]
    simp only [coerceItemsAt_ok fun v member w => ih v member, dated, Value.mapLeaves]
    constructor
    · rintro ⟨shallow, _, ⟨each, rfl⟩, rfl⟩
      exact ⟨⟨shallow, each⟩, rfl⟩
    · rintro ⟨⟨shallow, each⟩, rfl⟩
      exact ⟨shallow, _, ⟨each, rfl⟩, rfl⟩
  | document entries ih =>
    rw [coerceAt_document, within_depth, Outcomes.map_ok, acceptable_document]
    simp only [coerceEntriesAt_ok fun key v member w => ih key v member, dated, Value.mapLeaves]
    constructor
    · rintro ⟨shallow, _, ⟨each, rfl⟩, rfl⟩
      exact ⟨⟨shallow, each⟩, rfl⟩
    · rintro ⟨⟨shallow, each⟩, rfl⟩
      exact ⟨shallow, _, ⟨each, rfl⟩, rfl⟩

/-- The faults that a walk finds at a node. -/
inductive Objection (isAllowed : String → Bool) : Nat → Value → QueryFault → Prop where
  | depth {level : Nat} (node : Value) :
      maxDepth < level → Objection isAllowed level node (.nestingTooDeep maxDepth)
  | key {level : Nat} {entries : Document} {key : String} {v : Value} :
      (key, v) ∈ entries → isAllowed key = false →
        Objection isAllowed level (.document entries) (.unsafeOperator key)
  | literal {level : Nat} {s : String} :
      isDateLiteral s = true → Timestamp.read? (unmarked s) = none →
        Objection isAllowed level (.string s) (.invalidDateLiteral s)

theorem Objection.status {isAllowed : String → Bool} {level : Nat} {node : Value}
    {fault : QueryFault} (objection : Objection isAllowed level node fault) :
    fault.status = 400 := by
  cases objection <;> rfl

theorem coerceItemsAt_error {isAllowed : String → Bool} {depth : Nat} {items : List Value}
    {fault : QueryFault} (stopped : coerceItemsAt isAllowed depth items = .error fault) :
    ∃ v ∈ items, coerceAt isAllowed depth v = .error fault := by
  induction items with
  | nil => cases stopped
  | cons v rest ih =>
    rw [coerceItemsAt_cons, Outcomes.bind_error] at stopped
    rcases stopped with now | ⟨_, _, later⟩
    · exact ⟨v, List.mem_cons_self, now⟩
    · obtain ⟨u, member, stopped⟩ := ih (Outcomes.map_error.mp later)
      exact ⟨u, List.mem_cons_of_mem v member, stopped⟩

theorem coerceEntriesAt_error {isAllowed : String → Bool} {depth : Nat} {made entries : Document}
    {fault : QueryFault} (stopped : coerceEntriesAt isAllowed depth made entries = .error fault) :
    ∃ key v, (key, v) ∈ entries ∧
      (isAllowed key = false ∧ fault = .unsafeOperator key ∨
        coerceAt isAllowed depth v = .error fault) := by
  induction entries generalizing made with
  | nil => cases stopped
  | cons entry rest ih =>
    obtain ⟨key, v⟩ := entry
    rw [coerceEntriesAt_cons] at stopped
    cases allowed : isAllowed key with
    | false =>
      rw [allowed] at stopped
      cases stopped
      exact ⟨key, v, List.mem_cons_self, .inl ⟨allowed, rfl⟩⟩
    | true =>
      rw [allowed, if_pos rfl, Outcomes.bind_error] at stopped
      rcases stopped with now | ⟨_, _, later⟩
      · exact ⟨key, v, List.mem_cons_self, .inr now⟩
      · obtain ⟨name, u, member, reason⟩ := ih later
        exact ⟨name, u, List.mem_cons_of_mem _ member, reason⟩

theorem coerceAt_error {isAllowed : String → Bool} {depth : Nat} {v : Value} {fault : QueryFault}
    (stopped : coerceAt isAllowed depth v = .error fault) :
    ∃ k w, v.HasNode k w ∧ Objection isAllowed (depth + k) w fault := by
  induction v using Value.tree_induction generalizing depth with
  | leaf v leaf =>
    rw [coerceAt_leaf isAllowed depth leaf] at stopped
    split at stopped
    · rename_i deep
      cases stopped
      exact ⟨0, v, .root v, .depth v deep⟩
    · unfold coerceLeaf at stopped
      split at stopped
      · split at stopped
        · rename_i s literal
          split at stopped
          · cases stopped
          · rename_i unread
            cases stopped
            exact ⟨0, _, .root _, .literal literal unread⟩
        · cases stopped
      · cases stopped
  | array items ih =>
    rw [coerceAt_array] at stopped
    split at stopped
    · rename_i deep
      cases stopped
      exact ⟨0, _, .root _, .depth _ deep⟩
    · obtain ⟨v, member, inside⟩ := coerceItemsAt_error (Outcomes.map_error.mp stopped)
      obtain ⟨k, w, node, objection⟩ := ih v member inside
      exact ⟨k + 1, w, .item member node, by rwa [Nat.add_comm k, ← Nat.add_assoc]⟩
  | document entries ih =>
    rw [coerceAt_document] at stopped
    split at stopped
    · rename_i deep
      cases stopped
      exact ⟨0, _, .root _, .depth _ deep⟩
    · obtain ⟨key, v, member, reason⟩ := coerceEntriesAt_error (Outcomes.map_error.mp stopped)
      rcases reason with ⟨refused, rfl⟩ | inside
      · exact ⟨0, _, .root _, .key member refused⟩
      · obtain ⟨k, w, node, objection⟩ := ih key v member inside
        exact ⟨k + 1, w, .entry member node, by rwa [Nat.add_comm k, ← Nat.add_assoc]⟩

theorem datedLeaf_isLeaf {v : Value} (leaf : v.isLeaf = true) : (datedLeaf v).isLeaf = true := by
  cases v with
  | string s =>
    simp only [datedLeaf, coerceLeaf]
    cases isDateLiteral s <;> cases Timestamp.read? (unmarked s) <;> rfl
  | _ => exact leaf

theorem dated_isLeaf {v : Value} (leaf : v.isLeaf = true) : (dated v).isLeaf = true := by
  rw [dated, Value.mapLeaves_leaf datedLeaf leaf]
  exact datedLeaf_isLeaf leaf

/-- In a tree that was read no literal of a date is left. -/
theorem dated_string {isAllowed : String → Bool} {depth : Nat} {v : Value}
    (acceptable : Acceptable isAllowed depth v) {k : Nat} {s : String}
    (node : (dated v).HasNode k (.string s)) : isDateLiteral s = false := by
  obtain ⟨u, below, same⟩ := Value.hasNode_mapLeaves (fun _ => datedLeaf_isLeaf) node
  have fit := (acceptable k u below).2
  cases u with
  | string t =>
    simp only [Value.mapLeaves, datedLeaf, coerceLeaf] at same
    cases literal : isDateLiteral t with
    | false =>
      simp only [literal] at same
      cases same
      exact literal
    | true =>
      obtain ⟨time, read⟩ := Option.isSome_iff_exists.mp (fit literal)
      simp only [literal, read] at same
      cases same
  | _ => cases same

theorem dated_document {isAllowed : String → Bool} {depth : Nat} {v : Value}
    (acceptable : Acceptable isAllowed depth v) {k : Nat} {entries : Document}
    (node : (dated v).HasNode k (.document entries)) {key : String} {w : Value}
    (member : (key, w) ∈ entries) : isAllowed key = true := by
  obtain ⟨u, below, same⟩ := Value.hasNode_mapLeaves (fun _ => datedLeaf_isLeaf) node
  have fit := (acceptable k u below).2
  cases u with
  | document original =>
    simp only [Value.mapLeaves, Value.document.injEq] at same
    subst same
    obtain ⟨v, inside, _⟩ := Value.mem_mapEntries.mp (Fields.mem_ofEntries member)
    exact fit key v inside
  | string t =>
    have leaf : (dated (.string t)).isLeaf = true := dated_isLeaf rfl
    rw [dated, same] at leaf
    cases leaf
  | _ => cases same

theorem sanitize_ok {v w : Value} :
    sanitize v = .ok w ↔ Acceptable isAllowedKey 0 v ∧ dated v = w :=
  coerceAt_ok

theorem coerceDates_ok {v w : Value} :
    coerceDates v = .ok w ↔ Acceptable (fun _ => true) 0 v ∧ dated v = w :=
  coerceAt_ok

theorem coerceDates_document {entries : Document} {w : Value}
    (read : coerceDates (.document entries) = .ok w) : ∃ p, w = .document p := by
  obtain ⟨_, rfl⟩ := coerceDates_ok.mp read
  exact ⟨_, rfl⟩

theorem coerceDates_error {v : Value} {fault : QueryFault} (stopped : coerceDates v = .error fault) :
    ∃ k w, v.HasNode k w ∧ Objection (fun _ => true) k w fault := by
  obtain ⟨k, w, node, objection⟩ := coerceAt_error stopped
  exact ⟨k, w, node, by rwa [Nat.zero_add] at objection⟩

theorem sanitize_error {v : Value} {fault : QueryFault} (stopped : sanitize v = .error fault) :
    ∃ k w, v.HasNode k w ∧ Objection isAllowedKey k w fault := by
  obtain ⟨k, w, node, objection⟩ := coerceAt_error stopped
  exact ⟨k, w, node, by rwa [Nat.zero_add] at objection⟩

/-- A tree with a node that stands too deep, or with a literal of a date that is none. -/
def Unreadable (v : Value) : Prop :=
  ∃ k w, v.HasNode k w ∧ (maxDepth < k ∨
    ∃ s, w = .string s ∧ isDateLiteral s = true ∧ Timestamp.read? (unmarked s) = none)

theorem unreadable_iff {v : Value} : Unreadable v ↔ ∃ fault, coerceDates v = .error fault := by
  constructor
  · rintro ⟨k, w, node, reason⟩
    cases walked : coerceDates v with
    | error fault => exact ⟨fault, rfl⟩
    | ok u =>
      obtain ⟨shallow, fit⟩ := (coerceDates_ok.mp walked).1 k w node
      rcases reason with deep | ⟨s, rfl, literal, unread⟩
      · omega
      · have read := fit literal
        rw [unread] at read
        cases read
  · rintro ⟨fault, stopped⟩
    obtain ⟨k, w, node, objection⟩ := coerceDates_error stopped
    cases objection with
    | depth _ deep => exact ⟨k, _, node, .inl deep⟩
    | key _ refused => cases refused
    | literal literal unread => exact ⟨k, _, node, .inr ⟨_, rfl, literal, unread⟩⟩

end PolicyGate.Query
