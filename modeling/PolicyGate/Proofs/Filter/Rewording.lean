import PolicyGate.Proofs.Filter.Sequence

/-!
Filters that say the same in other words. A reworded filter gives the same answer on every document, and
where it fails it fails with the same fault.
-/
namespace PolicyGate.Filter

/-- The filter that puts operators to the value at one path. -/
def ask (path : String) (operators : Document) : Document := [(path, .document operators)]

/-- The filter that joins filters by a connective. -/
def join (key : String) (filters : List Document) : Document := [(key, .array (filters.map .document))]

/-- The operators of a condition, each by itself, with `$options` kept beside its `$regex`. -/
def apart (operators : Document) : List Document :=
  if "$regex" ∈ Fields.keys operators then
    (operators.filter (·.1 ≠ "$options")).map fun operator =>
      if operator.1 = "$regex" then operator :: operators.filter (·.1 = "$options") else [operator]
  else operators.map fun operator => [operator]

variable {d : Document} {path : String}

theorem holds_join {key : String} (connective : IsConnective key) (filters : List Document) :
    holds d (join key filters) = joined key (filters.map (holds d)) := by
  rw [join, holds_single, entryHolds_documents connective]

theorem not_isConnective (field : isOperatorName path = false) : ¬ IsConnective path := by
  rintro (rfl | rfl | rfl) <;> cases field

theorem holds_ask (field : isOperatorName path = false) (operators : Document) :
    holds d (ask path operators) = fieldHolds (d.resolve? path) (.document operators) := by
  rw [ask, holds_single, entryHolds_field (not_isConnective field) field]

theorem holds_ask_single (field : isOperatorName path = false) {name : String}
    (named : isOperatorName name = true) (operand : Value) :
    holds d (ask path [(name, operand)]) =
      operatorOutcome (d.resolve? path) (options [(name, operand)]) (name, operand) := by
  have operators : isOperators [(name, operand)] = true := by simp [isOperators, named]
  rw [holds_ask field, fieldHolds_operators operators, List.map_singleton, allOf_single]

theorem holds_ask_plain (field : isOperatorName path = false) {name : String}
    (named : isOperatorName name = true) (proper : name ≠ "$options") (plain : name ≠ "$not")
    (operand : Value) :
    holds d (ask path [(name, operand)]) =
      appliesTo (d.resolve? path) name operand (options [(name, operand)]) := by
  rw [holds_ask_single field named, operatorOutcome, if_neg proper, operatorHolds_plain plain]

theorem anyOf_ask_eq (field : isOperatorName path = false) (vs : List Value) :
    anyOf ((vs.map fun v => ask path [("$eq", v)]).map (holds d)) =
      .ok (vs.any (equals (d.resolve? path))) := by
  have one (v : Value) : holds d (ask path [("$eq", v)]) = .ok (equals (d.resolve? path) v) :=
    holds_ask_plain field (by decide) (by decide) (by decide) v
  have each : (vs.map fun v => ask path [("$eq", v)]).map (holds d) =
      (vs.map (equals (d.resolve? path))).map Except.ok := by
    simp only [List.map_map, Function.comp_def, one]
  rw [each, anyOf_ok, List.any_map]
  rfl

/-- Only `$regex` looks at the options. -/
theorem operatorOutcome_options {name : String} (other : name ≠ "$regex") (actual : Option Value)
    (options options' : String) (operand : Value) :
    operatorOutcome actual options (name, operand) =
      operatorOutcome actual options' (name, operand) := by
  have leaf (operand : Value) :
      appliesTo actual name operand options = appliesTo actual name operand options' := by
    unfold appliesTo
    split <;> first | rfl | exact absurd rfl other
  unfold operatorOutcome
  cases operand <;> simp only [operatorHolds, leaf]

theorem allOf_proper (actual : Option Value) (options : String) (operators : Document) :
    allOf ((operators.filter (·.1 ≠ "$options")).map (operatorOutcome actual options)) =
      allOf (operators.map (operatorOutcome actual options)) := by
  apply allOf_filter
  rintro ⟨name, operand⟩ _ skipped
  have skipped : name = "$options" := by simpa using skipped
  rw [operatorOutcome, if_pos skipped]

/-- A pattern that is taken apart with the options is evaluated as it was among its siblings. -/
theorem holds_ask_regex (field : isOperatorName path = false) (operators : Document)
    (operand : Value) :
    holds d (ask path (("$regex", operand) :: operators.filter (·.1 = "$options"))) =
      operatorOutcome (d.resolve? path) (options operators) ("$regex", operand) := by
  have named : isOperators (("$regex", operand) :: operators.filter (·.1 = "$options")) = true := by
    have names : isOperatorName "$regex" = true ∧ isOperatorName "$options" = true := by decide
    simp only [isOperators, List.isEmpty_cons, Bool.not_false, Bool.true_and, List.all_cons,
      names.1, List.all_eq_true]
    rintro ⟨name, flags⟩ member
    obtain rfl : name = "$options" := by simpa using (List.mem_filter.mp member).2
    exact names.2
  have same : options (("$regex", operand) :: operators.filter (·.1 = "$options")) =
      options operators := by
    rw [options, Fields.get?, if_neg (by decide), Fields.get?_filter, options]
  have rest : ((("$regex", operand) :: operators.filter (·.1 = "$options")).filter
      (·.1 ≠ "$options")) = [("$regex", operand)] := by
    simp
  rw [holds_ask field, fieldHolds_operators named, same, ← allOf_proper, rest, List.map_singleton,
    allOf_single]

theorem holds_apart (field : isOperatorName path = false) {operators : Document}
    (named : isOperators operators = true) :
    holds d (join "$and" ((apart operators).map (ask path))) = holds d (ask path operators) := by
  have isNamed (operator : String × Value) (member : operator ∈ operators) :
      isOperatorName operator.1 = true := by
    simp only [isOperators, Bool.and_eq_true, List.all_eq_true] at named
    exact named.2 operator member
  have single (operator : String × Value) (member : operator ∈ operators)
      (other : operator.1 ≠ "$regex") : holds d (ask path [operator]) =
        operatorOutcome (d.resolve? path) (options operators) operator := by
    rw [holds_ask_single field (isNamed operator member), operatorOutcome_options other]
  rw [holds_join (.inl rfl), joined, if_pos rfl, holds_ask field, fieldHolds_operators named,
    List.map_map, apart]
  split
  · rw [← allOf_proper, List.map_map]
    congr 1
    apply List.map_congr_left
    rintro ⟨name, operand⟩ kept
    have member := (List.mem_filter.mp kept).1
    dsimp only [Function.comp_apply]
    split
    · rename_i regex
      cases regex
      exact holds_ask_regex field operators operand
    · rename_i other
      exact single _ member other
  · rename_i absent
    rw [List.map_map]
    congr 1
    apply List.map_congr_left
    rintro ⟨name, operand⟩ member
    apply single _ member
    rintro rfl
    exact absent (List.mem_map_of_mem member)

/-- Rewordings that leave the outcome on every document as it is, fault included. A list of candidates
is a disjunction of equations, and its negation the joint denial of them; operators on one field are
a conjunction; a negated condition is the denial of the condition; and a filter is the conjunction of
its entries. -/
theorem rewordings_preserve (d : Document) {path : String} (field : path.toList.head? ≠ some '$') :
    (∀ vs, holds d (ask path [("$in", .array vs)]) =
      holds d (join "$or" (vs.map fun v => ask path [("$eq", v)]))) ∧
    (∀ vs, holds d (ask path [("$nin", .array vs)]) =
      holds d (join "$nor" (vs.map fun v => ask path [("$eq", v)]))) ∧
    (∀ operators, isOperators operators = true →
      holds d (ask path operators) = holds d (join "$and" ((apart operators).map (ask path)))) ∧
    (∀ operators, isOperators operators = true →
      holds d (ask path [("$not", .document operators)]) =
        holds d (join "$nor" [ask path operators])) ∧
    ∀ filter : Document, holds d filter = holds d (join "$and" (filter.map fun entry => [entry])) := by
  have field : isOperatorName path = false := beq_eq_false_iff_ne.mpr field
  refine ⟨fun vs => ?_, fun vs => ?_, fun operators named => ?_, fun operators named => ?_,
    fun filter => ?_⟩
  · have listed : holds d (ask path [("$in", .array vs)]) =
        .ok (vs.any (equals (d.resolve? path))) :=
      holds_ask_plain field (by decide) (by decide) (by decide) (.array vs)
    rw [listed, holds_join (.inr (.inl rfl))]
    exact (anyOf_ask_eq field vs).symm
  · have listed : holds d (ask path [("$nin", .array vs)]) =
        .ok (!vs.any (equals (d.resolve? path))) :=
      holds_ask_plain field (by decide) (by decide) (by decide) (.array vs)
    rw [listed, holds_join (.inr (.inr rfl))]
    exact congrArg (Except.map not) (anyOf_ask_eq field vs).symm
  · exact (holds_apart field named).symm
  · have negated : holds d (ask path [("$not", .document operators)]) =
        (holds d (ask path operators)).map not := by
      rw [holds_ask_single field (by decide), operatorOutcome_not named, holds_ask field]
    rw [negated, holds_join (.inr (.inr rfl)), List.map_singleton, joined, anyOf_single]
    rfl
  · have single : filter.map (fun entry => entryHolds d entry.1 entry.2) =
        filter.map fun entry => holds d [entry] :=
      List.map_congr_left fun entry _ => (holds_single d entry.1 entry.2).symm
    rw [holds_join (.inl rfl), joined, if_pos rfl, holds_eq, single, List.map_map]
    rfl

def initials : Document :=
  [("$options", .string "i"), ("$regex", .string "^b"), ("$ne", .string "Bob")]

theorem rewordings_preserve_initials :
    "name".toList.head? ≠ some '$' ∧ isOperators initials = true ∧
      apart initials = [[("$regex", .string "^b"), ("$options", .string "i")],
        [("$ne", .string "Bob")]] ∧
      holds [("name", .string "Bea")] (ask "name" initials) =
        holds [("name", .string "Bea")] (join "$and" ((apart initials).map (ask "name"))) ∧
      holds [("name", .string "Bea")] (ask "name" [("$not", .document initials)]) =
        holds [("name", .string "Bea")] (join "$nor" [ask "name" initials]) := by
  have field : "name".toList.head? ≠ some '$' := by decide
  have named : isOperators initials = true := by decide
  have laws := rewordings_preserve [("name", .string "Bea")] field
  exact ⟨field, named, by simp [apart, initials, Fields.keys], laws.2.2.1 initials named,
    laws.2.2.2.1 initials named⟩

end PolicyGate.Filter
