import PolicyGate.Proofs.Filter.Evaluation
import PolicyGate.Proofs.Value.Nodes

/-!
Filters in terms of their parts. The entries of a filter, the clauses of a connective and the operators
of a condition are evaluated from left to right, up to the first part that fails or decides: each of
these loops is `allOf` or `anyOf` of the outcomes of the parts.
-/
namespace PolicyGate.Filter

abbrev Outcome := Except StoreFault Bool

/-- Whether all parts hold. The first that fails, or does not hold, ends the search. -/
def allOf : List Outcome → Outcome
  | [] => .ok true
  | .ok true :: rest => allOf rest
  | outcome :: _ => outcome

/-- Whether one of the parts holds. The first that fails, or holds, ends the search. -/
def anyOf : List Outcome → Outcome
  | [] => .ok false
  | .ok false :: rest => anyOf rest
  | outcome :: _ => outcome

theorem allOf_single (outcome : Outcome) : allOf [outcome] = outcome := by
  cases outcome with
  | error fault => rfl
  | ok b => cases b <;> rfl

theorem anyOf_single (outcome : Outcome) : anyOf [outcome] = outcome := by
  cases outcome with
  | error fault => rfl
  | ok b => cases b <;> rfl

theorem anyOf_eq (outcomes : List Outcome) :
    anyOf outcomes = (allOf (outcomes.map (Except.map not))).map not := by
  induction outcomes with
  | nil => rfl
  | cons outcome rest ih =>
    cases outcome with
    | error fault => rfl
    | ok b =>
      cases b with
      | true => rfl
      | false => exact ih

theorem anyOf_ok (answers : List Bool) :
    anyOf (answers.map Except.ok) = .ok (answers.any id) := by
  induction answers with
  | nil => rfl
  | cons b rest ih =>
    cases b with
    | true => rfl
    | false => exact ih

/-- Parts that are sure to hold may be left out. -/
theorem allOf_filter {α : Type} {f : α → Outcome} {p : α → Bool} {parts : List α}
    (sure : ∀ x ∈ parts, p x = false → f x = .ok true) :
    allOf ((parts.filter p).map f) = allOf (parts.map f) := by
  induction parts with
  | nil => rfl
  | cons x rest ih =>
    have later := ih fun y member => sure y (List.mem_cons_of_mem x member)
    cases kept : p x with
    | false =>
      rw [List.filter_cons_of_neg (by simp [kept]), later, List.map_cons,
        sure x List.mem_cons_self kept]
      rfl
    | true =>
      rw [List.filter_cons_of_pos kept, List.map_cons, List.map_cons]
      cases f x with
      | error fault => rfl
      | ok b =>
        cases b with
        | false => rfl
        | true => exact later

theorem holds_eq (d filter : Document) :
    holds d filter = allOf (filter.map fun entry => entryHolds d entry.1 entry.2) := by
  induction filter with
  | nil => rfl
  | cons entry rest ih =>
    obtain ⟨key, condition⟩ := entry
    rw [holds, List.map_cons]
    cases entryHolds d key condition with
    | error fault => rfl
    | ok b =>
      cases b with
      | false => rfl
      | true => exact ih

theorem holds_single (d : Document) (key : String) (condition : Value) :
    holds d [(key, condition)] = entryHolds d key condition := by
  rw [holds_eq, List.map_singleton, allOf_single]

/-- The outcome of a clause. All clauses are documents before one of them is evaluated. -/
def clauseHolds (d : Document) : Value → Outcome
  | .document clause => holds d clause
  | _ => .ok true

theorem allHold_eq (d : Document) (clauses : List Value) :
    allHold d clauses = allOf (clauses.map (clauseHolds d)) := by
  induction clauses with
  | nil => rfl
  | cons clause rest ih =>
    rw [List.map_cons]
    cases clause with
    | document filter =>
      rw [allHold, clauseHolds]
      cases holds d filter with
      | error fault => rfl
      | ok b =>
        cases b with
        | false => rfl
        | true => exact ih
    | _ => exact ih

theorem anyHolds_eq {clauses : List Value} (documents : ∀ v ∈ clauses, v.document?.isSome = true)
    (d : Document) : anyHolds d clauses = anyOf (clauses.map (clauseHolds d)) := by
  induction clauses with
  | nil => rfl
  | cons clause rest ih =>
    obtain ⟨first, others⟩ := List.forall_mem_cons.mp documents
    rw [List.map_cons]
    cases clause with
    | document filter =>
      rw [anyHolds, clauseHolds]
      cases holds d filter with
      | error fault => rfl
      | ok b =>
        cases b with
        | true => rfl
        | false => exact ih others
    | _ => cases first

/-- What a connective makes of the outcomes of its clauses. -/
def joined (key : String) (outcomes : List Outcome) : Outcome :=
  if key = "$and" then allOf outcomes
  else if key = "$or" then anyOf outcomes
  else (anyOf outcomes).map not

theorem checkClauses_ok {name : String} {clauses : List Value} :
    checkClauses name (.array clauses) = .ok () ↔ ∀ v ∈ clauses, v.document?.isSome = true := by
  rw [checkClauses, ← List.all_eq_true]
  cases clauses.all (·.document?.isSome) <;> simp

theorem entryHolds_connective {key : String} (connective : IsConnective key) (d : Document)
    (clauses : List Value) :
    entryHolds d key (.array clauses) = (checkClauses key (.array clauses)).bind fun _ =>
      joined key (clauses.map (clauseHolds d)) := by
  cases shaped : checkClauses key (.array clauses) with
  | error fault => rcases connective with rfl | rfl | rfl <;> rw [entryHolds, shaped] <;> rfl
  | ok u =>
    have any := anyHolds_eq (checkClauses_ok.mp shaped) d
    rcases connective with rfl | rfl | rfl
    · rw [entryHolds, shaped]
      exact allHold_eq d clauses
    · rw [entryHolds, shaped]
      exact any
    · rw [entryHolds, shaped]
      exact congrArg (Except.map not) any

theorem entryHolds_documents {key : String} (connective : IsConnective key) (d : Document)
    (filters : List Document) :
    entryHolds d key (.array (filters.map .document)) = joined key (filters.map (holds d)) := by
  have shaped : checkClauses key (.array (filters.map .document)) = .ok () :=
    checkClauses_ok.mpr (by simp [Value.document?])
  rw [entryHolds_connective connective, shaped, List.map_map]
  rfl

theorem entryHolds_misshapen {key : String} (connective : IsConnective key) {condition : Value}
    (other : ∀ clauses, condition ≠ .array clauses) (d : Document) :
    entryHolds d key condition = .error (.shape key "expects an array") := by
  cases condition with
  | array clauses => exact absurd rfl (other clauses)
  | _ => rw [entryHolds, if_pos connective]; exact other

theorem entryHolds_plain {key : String} (field : ¬ IsConnective key) (d : Document)
    (condition : Value) :
    entryHolds d key condition =
      if isOperatorName key then .error (.operator key)
      else fieldHolds (d.resolve? key) condition := by
  cases condition <;> simp_all [entryHolds]

/-- The outcome of an operator in a condition. `$options` is there for its sibling alone. -/
def operatorOutcome (actual : Option Value) (options : String) (operator : String × Value) : Outcome :=
  if operator.1 = "$options" then .ok true
  else operatorHolds actual options operator.1 operator.2

theorem operatorsHold_eq (actual : Option Value) (options : String) (operators : Document) :
    operatorsHold actual options operators =
      allOf (operators.map (operatorOutcome actual options)) := by
  induction operators with
  | nil => rfl
  | cons operator rest ih =>
    obtain ⟨name, operand⟩ := operator
    rw [operatorsHold, List.map_cons, operatorOutcome]
    split
    · exact ih
    · cases operatorHolds actual options name operand with
      | error fault => rfl
      | ok b =>
        cases b with
        | false => rfl
        | true => exact ih

theorem fieldHolds_operators {operators : Document} (named : isOperators operators = true)
    (actual : Option Value) :
    fieldHolds actual (.document operators) =
      allOf (operators.map (operatorOutcome actual (options operators))) := by
  rw [fieldHolds, if_pos named, operatorsHold_eq]

theorem fieldHolds_literal {condition : Value}
    (literal : ∀ operators, condition = .document operators → isOperators operators = false)
    (actual : Option Value) : fieldHolds actual condition = .ok (equals actual condition) := by
  cases condition with
  | document operators => rw [fieldHolds, literal operators rfl]; rfl
  | _ => rfl

theorem operatorOutcome_not {inner : Document} (named : isOperators inner = true)
    (actual : Option Value) (options : String) :
    operatorOutcome actual options ("$not", .document inner) =
      (fieldHolds actual (.document inner)).map not := by
  have proper : "$not" ≠ "$options" := by decide
  rw [operatorOutcome, if_neg proper, operatorHolds, if_pos rfl, if_pos named, fieldHolds,
    if_pos named]

/-- Induction along the entries of a filter. The clauses of a connective are filters, whose entries
come before the connective; conditions on fields hold no entries. -/
@[elab_as_elim]
theorem entry_induction {P : String → Value → Prop}
    (field : ∀ key condition, ¬ IsConnective key → P key condition)
    (misshapen : ∀ key condition, IsConnective key → (∀ clauses, condition ≠ .array clauses) →
      P key condition)
    (connective : ∀ key clauses, IsConnective key →
      (∀ filter, Value.document filter ∈ clauses → ∀ entry ∈ filter, P entry.1 entry.2) →
        P key (.array clauses))
    (key : String) (condition : Value) : P key condition := by
  suffices (∀ key, P key condition) ∧
      ∀ filter, condition = .document filter → ∀ entry ∈ filter, P entry.1 entry.2 from this.1 key
  have noArray (v : Value) (other : ∀ clauses, v ≠ .array clauses) (key : String) : P key v := by
    by_cases joins : IsConnective key
    · exact misshapen key v joins other
    · exact field key v joins
  induction condition using Value.tree_induction with
  | leaf v leaf =>
    refine ⟨noArray v ?_, ?_⟩ <;> rintro _ rfl <;> cases leaf
  | array items ih =>
    refine ⟨fun key => ?_, fun filter same => by cases same⟩
    by_cases joins : IsConnective key
    · exact connective key items joins fun filter member => (ih _ member).2 filter rfl
    · exact field key _ joins
  | document entries ih =>
    refine ⟨noArray _ fun clauses same => (by cases same), ?_⟩
    rintro _ ⟨⟩ ⟨key, v⟩ member
    exact (ih key v member).1 key

end PolicyGate.Filter
