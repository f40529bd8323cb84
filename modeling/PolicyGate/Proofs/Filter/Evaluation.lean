import PolicyGate.Filter.Validate

/-!
Filters that pass the check are evaluated on every document without a fault.
-/
namespace PolicyGate.Filter

def Settles (answer : Except StoreFault Bool) : Prop := ∃ b, answer = .ok b

theorem Settles.map_not {answer : Except StoreFault Bool} (h : Settles answer) :
    Settles (answer.map not) := by
  obtain ⟨b, rfl⟩ := h
  exact ⟨!b, rfl⟩

theorem isIn_settles {candidates : Value} (listed : candidates.array?.isSome)
    (actual : Option Value) (name : String) : Settles (isIn actual name candidates) := by
  cases candidates with
  | array items => exact ⟨items.any (equals actual), rfl⟩
  | _ => cases listed

theorem appliesTo_settles {name : String} {operand : Value} {options : String}
    (proper : name ≠ "$options") (checked : checkOperand name operand options = .ok ())
    (actual : Option Value) : Settles (appliesTo actual name operand options) := by
  unfold checkOperand at checked
  -- The cases that are left: `$options`, `$in`, `$nin`, `$regex` and names of no operator.
  split at checked
  case h_8 => contradiction
  case h_9 =>
    split at checked
    · rename_i listed
      exact isIn_settles listed actual _
    · cases checked
  case h_10 =>
    split at checked
    · rename_i listed
      exact (isIn_settles listed actual _).map_not
    · cases checked
  case h_11 =>
    cases compiled : pattern operand options with
    | error e => rw [compiled] at checked; cases checked
    | ok r => exact ⟨matchesPattern actual r, by simp only [appliesTo, compiled]; rfl⟩
  case h_12 => cases checked
  all_goals exact ⟨_, rfl⟩

theorem operatorHolds_plain {name : String} (plain : name ≠ "$not") (actual : Option Value)
    (options : String) (operand : Value) :
    operatorHolds actual options name operand = appliesTo actual name operand options := by
  cases operand <;> simp only [operatorHolds, if_neg plain]

theorem checkOperator_plain {name : String} (plain : name ≠ "$not") (options : String)
    (operand : Value) : checkOperator options name operand = checkOperand name operand options := by
  cases operand <;> simp only [checkOperator, if_neg plain]

theorem checkOperators_cons {options name : String} {operand : Value} {rest : Document} :
    checkOperators options ((name, operand) :: rest) = .ok () ↔
      checkOperator options name operand = .ok () ∧ checkOperators options rest = .ok () := by
  rw [checkOperators]
  cases checkOperator options name operand <;> simp

mutual

theorem operatorsHold_settles (actual : Option Value) (options : String) :
    (operators : List (String × Value)) → checkOperators options operators = .ok () →
      Settles (operatorsHold actual options operators)
  | [], _ => ⟨true, rfl⟩
  | (name, operand) :: rest, checked => by
    obtain ⟨first, others⟩ := checkOperators_cons.mp checked
    have later := operatorsHold_settles actual options rest others
    unfold operatorsHold
    split
    · exact later
    · rename_i proper
      obtain ⟨b, hb⟩ := operatorHolds_settles actual options name operand proper first
      rw [hb]
      cases b with
      | false => exact ⟨false, rfl⟩
      | true => exact later

theorem operatorHolds_settles (actual : Option Value) (options name : String) (operand : Value)
    (proper : name ≠ "$options") (checked : checkOperator options name operand = .ok ()) :
    Settles (operatorHolds actual options name operand) := by
  by_cases negated : name = "$not"
  · subst negated
    cases operand with
    | document inner =>
      simp only [checkOperator, if_true] at checked
      split at checked
      · rename_i operators
        simp only [operatorHolds, if_true, if_pos operators]
        exact (operatorsHold_settles actual (Filter.options inner) inner checked).map_not
      · cases checked
    | _ => simp [checkOperator] at checked
  · rw [checkOperator_plain negated] at checked
    rw [operatorHolds_plain negated]
    exact appliesTo_settles proper checked actual

end

theorem fieldHolds_settles {condition : Value} (checked : checkCondition condition = .ok ())
    (actual : Option Value) : Settles (fieldHolds actual condition) := by
  cases condition with
  | document operators =>
    simp only [checkCondition] at checked
    simp only [fieldHolds]
    split
    · rename_i named
      rw [if_pos named] at checked
      exact operatorsHold_settles actual (options operators) operators checked
    · exact ⟨_, rfl⟩
  | _ => exact ⟨_, rfl⟩

abbrev IsConnective (key : String) : Prop := key = "$and" ∨ key = "$or" ∨ key = "$nor"

theorem entryHolds_field {key : String} (field : ¬ IsConnective key)
    (named : isOperatorName key = false) (d : Document) (condition : Value) :
    entryHolds d key condition = fieldHolds (d.resolve? key) condition := by
  cases condition <;> simp_all [entryHolds]

theorem checkEntry_field {key : String} (field : ¬ IsConnective key) {condition : Value}
    (checked : checkEntry key condition = .ok ()) :
    isOperatorName key = false ∧ checkCondition condition = .ok () := by
  cases named : isOperatorName key with
  | false =>
    refine ⟨rfl, ?_⟩
    cases condition with
    | array items => rfl
    | _ => simpa [checkEntry, field, named] using checked
  | true => cases condition <;> simp [checkEntry, field, named] at checked

theorem checkEntry_connective {key : String} (connective : IsConnective key) {clauses : List Value}
    (checked : checkEntry key (.array clauses) = .ok ()) :
    checkClauses key (.array clauses) = .ok () ∧ checkAll clauses = .ok () := by
  rw [checkEntry, if_pos connective] at checked
  cases shaped : checkClauses key (.array clauses) with
  | error e => rw [shaped] at checked; cases checked
  | ok u => rw [shaped] at checked; exact ⟨rfl, checked⟩

theorem check_cons {key : String} {condition : Value} {rest : Document} :
    check ((key, condition) :: rest) = .ok () ↔
      checkEntry key condition = .ok () ∧ check rest = .ok () := by
  rw [check]
  cases checkEntry key condition <;> simp

theorem checkAll_cons {filter : Document} {rest : List Value} :
    checkAll (.document filter :: rest) = .ok () ↔
      check filter = .ok () ∧ checkAll rest = .ok () := by
  rw [checkAll]
  cases check filter <;> simp

-- The check and the evaluation recurse alike, so one induction runs along both.
mutual

theorem holds_settles (d : Document) :
    (filter : List (String × Value)) → check filter = .ok () → Settles (holds d filter)
  | [], _ => ⟨true, rfl⟩
  | (key, condition) :: rest, checked => by
    obtain ⟨first, others⟩ := check_cons.mp checked
    obtain ⟨b, hb⟩ := entryHolds_settles d key condition first
    rw [holds, hb]
    cases b with
    | false => exact ⟨false, rfl⟩
    | true => exact holds_settles d rest others

theorem entryHolds_settles (d : Document) (key : String) (condition : Value)
    (checked : checkEntry key condition = .ok ()) : Settles (entryHolds d key condition) := by
  by_cases connective : IsConnective key
  · cases condition with
    | array clauses =>
      obtain ⟨shaped, each⟩ := checkEntry_connective connective checked
      rw [entryHolds, shaped]
      rcases connective with rfl | rfl | rfl
      · exact allHold_settles d clauses each
      · exact anyHolds_settles d clauses each
      · exact (anyHolds_settles d clauses each).map_not
    | _ => simp [checkEntry, connective] at checked
  · obtain ⟨named, sound⟩ := checkEntry_field connective checked
    rw [entryHolds_field connective named]
    exact fieldHolds_settles sound _

theorem allHold_settles (d : Document) :
    (clauses : List Value) → checkAll clauses = .ok () → Settles (allHold d clauses)
  | [], _ => ⟨true, rfl⟩
  | clause :: rest, checked => by
    cases clause with
    | document filter =>
      obtain ⟨first, others⟩ := checkAll_cons.mp checked
      obtain ⟨b, hb⟩ := holds_settles d filter first
      rw [allHold, hb]
      cases b with
      | false => exact ⟨false, rfl⟩
      | true => exact allHold_settles d rest others
    | _ => exact allHold_settles d rest checked

theorem anyHolds_settles (d : Document) :
    (clauses : List Value) → checkAll clauses = .ok () → Settles (anyHolds d clauses)
  | [], _ => ⟨false, rfl⟩
  | clause :: rest, checked => by
    cases clause with
    | document filter =>
      obtain ⟨first, others⟩ := checkAll_cons.mp checked
      obtain ⟨b, hb⟩ := holds_settles d filter first
      rw [anyHolds, hb]
      cases b with
      | true => exact ⟨true, rfl⟩
      | false => exact anyHolds_settles d rest others
    | _ => exact anyHolds_settles d rest checked

end

/-- The document satisfies the filter, and no fault comes first. -/
def accepts (filter d : Document) : Bool :=
  match holds d filter with
  | .ok b => b
  | .error _ => false

theorem accepts_iff {filter d : Document} :
    accepts filter d = true ↔ holds d filter = .ok true := by
  rw [accepts]
  cases holds d filter <;> simp

theorem Settles.holds_eq {filter d : Document} (settles : Settles (holds d filter)) :
    holds d filter = .ok (accepts filter d) := by
  obtain ⟨b, hb⟩ := settles
  rw [accepts, hb]

theorem anyHolds_documents {filters : List Document}
    (checked : ∀ filter ∈ filters, check filter = .ok ()) (d : Document) :
    anyHolds d (filters.map .document) = .ok (filters.any fun filter => accepts filter d) := by
  induction filters with
  | nil => rfl
  | cons filter rest ih =>
    have first := (holds_settles d filter (checked filter List.mem_cons_self)).holds_eq
    have later := ih fun other member => checked other (List.mem_cons_of_mem filter member)
    rw [List.map_cons, anyHolds, first, List.any_cons]
    cases accepts filter d with
    | true => rfl
    | false => exact later

end PolicyGate.Filter
