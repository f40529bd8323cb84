import PolicyGate.Proofs.Filter.Rewording

/-!
Fields that a document does not have. A filter takes a missing field for null, up to the operators that
tell the two apart.
-/
namespace PolicyGate.Filter

/-- What tells a missing value from null: the question whether it exists, and a bound that would
include null. -/
def TellsMissing (name : String) (operand : Value) : Prop :=
  name = "$exists" ∨ (name = "$gte" ∨ name = "$lte") ∧ operand = .null

/-- An operator stands in a condition, or under a `$not` in it. -/
inductive Puts (name : String) (operand : Value) : Value → Prop where
  | here {operators : Document} : isOperators operators = true → (name, operand) ∈ operators →
      Puts name operand (.document operators)
  | negated {operators : Document} {inner : Value} : isOperators operators = true →
      ("$not", inner) ∈ operators → Puts name operand inner → Puts name operand (.document operators)

/-- An operator is put to the value at a path, somewhere in a filter. -/
inductive Asks (path name : String) (operand : Value) : Document → Prop where
  | condition {filter : Document} {condition : Value} : (path, condition) ∈ filter →
      Puts name operand condition → Asks path name operand filter
  | clause {filter inner : Document} {key : String} {clauses : List Value} : IsConnective key →
      (key, .array clauses) ∈ filter → .document inner ∈ clauses → Asks path name operand inner →
      Asks path name operand filter

theorem equals_null (expected : Value) : equals (some .null) expected = equals none expected := by
  cases expected <;> rfl

theorem compares_null {accept : Ordering → Bool} {bound : Value}
    (proper : bound = .null → accept .eq = false) :
    compares accept (some .null) bound = compares accept none bound := by
  cases bound with
  | null => exact proper rfl
  | _ => rfl

theorem appliesTo_null {name : String} {operand : Value} (alike : ¬ TellsMissing name operand)
    (options : String) :
    appliesTo (some .null) name operand options = appliesTo none name operand options := by
  have isIn_null : isIn (some .null) name operand = isIn none name operand := by
    cases operand with
    | array vs => simp only [isIn, funext equals_null]
    | _ => rfl
  unfold appliesTo
  split
  case h_1 => rw [equals_null]
  case h_2 => rw [equals_null]
  case h_3 => rw [compares_null fun _ => rfl]
  case h_4 => rw [compares_null fun null => absurd (.inr ⟨.inl rfl, null⟩) alike]
  case h_5 => rw [compares_null fun _ => rfl]
  case h_6 => rw [compares_null fun null => absurd (.inr ⟨.inr rfl, null⟩) alike]
  case h_7 => exact isIn_null
  case h_8 => rw [isIn_null]
  case h_9 => exact absurd (.inl rfl) alike
  case h_10 => rfl
  case h_11 => rfl

theorem appliesTo_tells {name : String} {operand : Value} (tells : TellsMissing name operand)
    (options : String) :
    appliesTo (some .null) name operand options ≠ appliesTo none name operand options := by
  rcases tells with rfl | ⟨rfl | rfl, rfl⟩
  · simp [appliesTo]
  · simp [appliesTo, compares, Value.compare?]
  · simp [appliesTo, compares, Value.compare?]

theorem negated_null {operand : Value}
    (same : fieldHolds (some .null) operand = fieldHolds none operand) (options : String) :
    operatorOutcome (some .null) options ("$not", operand) =
      operatorOutcome none options ("$not", operand) := by
  cases operand with
  | document inner =>
    by_cases named : isOperators inner = true
    · rw [operatorOutcome_not named, operatorOutcome_not named, same]
    · simp only [operatorOutcome, operatorHolds, if_neg named, if_true]
  | _ => rfl

theorem fieldHolds_null {condition : Value}
    (alike : ∀ name operand, Puts name operand condition → ¬ TellsMissing name operand) :
    fieldHolds (some .null) condition = fieldHolds none condition := by
  have literal (condition : Value)
      (plain : ∀ operators, condition = .document operators → isOperators operators = false) :
      fieldHolds (some .null) condition = fieldHolds none condition := by
    rw [fieldHolds_literal plain, fieldHolds_literal plain, equals_null]
  induction condition using Value.tree_induction with
  | leaf v leaf =>
    apply literal
    rintro _ rfl
    cases leaf
  | array items => exact literal _ fun _ same => by cases same
  | document operators ih =>
    by_cases named : isOperators operators = true
    · rw [fieldHolds_operators named, fieldHolds_operators named]
      congr 1
      apply List.map_congr_left
      rintro ⟨name, operand⟩ member
      by_cases negated : name = "$not"
      · subst negated
        exact negated_null (ih "$not" operand member fun name inner puts =>
          alike name inner (.negated named member puts)) _
      · rw [operatorOutcome, operatorOutcome, operatorHolds_plain negated,
          operatorHolds_plain negated, appliesTo_null (alike name operand (.here named member))]
    · apply literal
      rintro _ ⟨⟩
      exact Bool.eq_false_iff.mpr named

section Documents

variable {k : String} {d : Document}

theorem resolve?_append_null (missing : k ∉ Fields.keys d) {path : String} (other : path ≠ k) :
    Document.resolve? (d ++ [(k, .null)]) path = d.resolve? path := by
  have whole := Text.joinWith_splitOn '.' path.toList
  unfold Document.resolve?
  cases pieces : Text.splitOn '.' path.toList with
  | nil => exact absurd pieces (Text.splitOn_ne_nil _ _)
  | cons segment rest =>
    rw [List.foldlM_cons, List.foldlM_cons, Value.child?, Value.child?, Fields.get?_append]
    by_cases here : String.ofList segment = k
    · rw [here, Fields.get?_eq_none.mpr missing]
      cases rest with
      | nil =>
        rw [pieces, Text.joinWith] at whole
        rw [whole, String.ofList_toList] at here
        exact absurd here other
      | cons next rest =>
        -- Null has nothing below it, so the path still leads nowhere.
        simp [Fields.get?, Value.child?]
    · simp [Fields.get?, Ne.symm here]

theorem resolve?_missing (plain : '.' ∉ k.toList) (missing : k ∉ Fields.keys d) :
    d.resolve? k = none := by
  rw [Document.resolve?_plain d plain, Fields.get?_eq_none.mpr missing]

theorem resolve?_null (plain : '.' ∉ k.toList) (missing : k ∉ Fields.keys d) :
    Document.resolve? (d ++ [(k, .null)]) k = some .null := by
  rw [Document.resolve?_plain _ plain, Fields.get?_append, Fields.get?_eq_none.mpr missing,
    Fields.get?, if_pos rfl]
  rfl

theorem entryHolds_null (plain : '.' ∉ k.toList) (missing : k ∉ Fields.keys d) {filter : Document}
    (alike : ∀ name operand, Asks k name operand filter → ¬ TellsMissing name operand)
    (entry : String × Value) (member : entry ∈ filter) :
    entryHolds d entry.1 entry.2 = entryHolds (d ++ [(k, .null)]) entry.1 entry.2 := by
  obtain ⟨key, condition⟩ := entry
  dsimp only
  induction key, condition using entry_induction generalizing filter with
  | field key condition field =>
    rw [entryHolds_plain field, entryHolds_plain field]
    by_cases here : key = k
    · subst here
      rw [resolve?_missing plain missing, resolve?_null plain missing,
        fieldHolds_null fun name operand puts => alike name operand (.condition member puts)]
    · rw [resolve?_append_null missing here]
  | misshapen key condition joins other =>
    rw [entryHolds_misshapen joins other, entryHolds_misshapen joins other]
  | connective key clauses joins ih =>
    have each : clauses.map (clauseHolds d) = clauses.map (clauseHolds (d ++ [(k, .null)])) := by
      apply List.map_congr_left
      intro clause inside
      cases clause with
      | document inner =>
        rw [clauseHolds, clauseHolds, holds_eq, holds_eq]
        congr 1
        apply List.map_congr_left
        intro entry within
        exact ih inner inside entry within (fun name operand asks =>
          alike name operand (.clause joins member inside asks)) within
      | _ => rfl
    rw [entryHolds_connective joins, entryHolds_connective joins, each]

end Documents

/-- A field that a document does not have counts as null, unless a filter puts one of the few operators
to it that tell the two apart. These do so for any field. -/
theorem missing_as_null {k : String} (plain : '.' ∉ k.toList) {d : Document}
    (missing : k ∉ Fields.keys d) :
    (∀ filter, (∀ name operand, Asks k name operand filter → ¬ TellsMissing name operand) →
      holds d filter = holds (d ++ [(k, .null)]) filter) ∧
    ∀ name operand, TellsMissing name operand → isOperatorName k = false →
      holds d (ask k [(name, operand)]) ≠ holds (d ++ [(k, .null)]) (ask k [(name, operand)]) := by
  constructor
  · intro filter alike
    rw [holds_eq, holds_eq, List.map_congr_left (entryHolds_null plain missing alike)]
  · intro name operand tells field
    have proper : isOperatorName name = true ∧ name ≠ "$options" ∧ name ≠ "$not" := by
      rcases tells with rfl | ⟨rfl | rfl, _⟩ <;> decide
    obtain ⟨named, flagless, positive⟩ := proper
    rw [holds_ask_plain field named flagless positive, holds_ask_plain field named flagless positive,
      resolve?_missing plain missing, resolve?_null plain missing]
    exact (appliesTo_tells tells _).symm

/-- A bound under two negations. Existence is asked of another field. -/
def grownUp : Document :=
  [("$nor", .array [.document (ask "age" [("$not", .document [("$gte", .int 18)])])]),
    ("_id", .document [("$exists", .bool true)])]

theorem missing_as_null_grownUp :
    '.' ∉ "age".toList ∧ "age" ∉ Fields.keys ([] : Document) ∧
      (∀ name operand, Asks "age" name operand grownUp → ¬ TellsMissing name operand) ∧
      holds [] grownUp = holds [("age", .null)] grownUp ∧
      TellsMissing "$lte" .null ∧ isOperatorName "age" = false ∧
      holds [] (ask "age" [("$lte", .null)]) ≠ holds [("age", .null)] (ask "age" [("$lte", .null)]) := by
  have plain : '.' ∉ "age".toList := by decide
  have missing : "age" ∉ Fields.keys ([] : Document) := by decide
  have alike (name : String) (operand : Value) (asks : Asks "age" name operand grownUp) :
      ¬ TellsMissing name operand := by
    cases asks with
    | condition member => simp [grownUp] at member
    | clause _ member inside asks =>
      obtain ⟨rfl, rfl⟩ : _ = "$nor" ∧ _ := by simpa [grownUp] using member
      obtain rfl := by simpa using inside
      cases asks with
      | clause _ member => simp [ask] at member
      | condition member puts =>
        obtain rfl := by simpa [ask] using member
        cases puts with
        | here _ member =>
          obtain ⟨rfl, rfl⟩ : name = "$not" ∧ _ := by simpa using member
          simp [TellsMissing]
        | negated _ member puts =>
          obtain rfl := by simpa using member
          cases puts with
          | here _ member =>
            obtain ⟨rfl, rfl⟩ : name = "$gte" ∧ _ := by simpa using member
            simp [TellsMissing]
          | negated _ member => simp at member
  have tells : TellsMissing "$lte" .null := .inr ⟨.inr rfl, rfl⟩
  have laws := missing_as_null plain missing
  exact ⟨plain, missing, alike, laws.1 grownUp alike, tells, by decide, laws.2 _ _ tells (by decide)⟩

/-- A key stands in a document somewhere in a filter. -/
def Mentions (filter : Document) (name : String) : Prop :=
  ∃ k entries, (Value.document filter).HasNode k (.document entries) ∧ name ∈ Fields.keys entries

/-- Where no `$exists` is asked, a bound of null still tells a missing field. -/
theorem null_bound_tells_missing :
    ¬ ∀ (filter d : Document) (k : String), ¬ Mentions filter "$exists" → '.' ∉ k.toList →
      k ∉ Fields.keys d → holds d filter = holds (d ++ [(k, .null)]) filter := by
  intro law
  have silent : ¬ Mentions (ask "age" [("$gte", .null)]) "$exists" := by
    rintro ⟨k, entries, node, mentioned⟩
    rcases Value.hasNode_single node with same | ⟨j, below⟩
    · cases same
      simp at mentioned
    · rcases Value.hasNode_single below with same | ⟨j, below⟩
      · cases same
        simp at mentioned
      · cases below
  have same := law _ [] "age" silent (by decide) (by decide)
  have absent : holds [] (ask "age" [("$gte", .null)]) = .ok false := rfl
  have null : holds [("age", .null)] (ask "age" [("$gte", .null)]) = .ok true := rfl
  rw [absent, List.nil_append, null] at same
  cases same

end PolicyGate.Filter
