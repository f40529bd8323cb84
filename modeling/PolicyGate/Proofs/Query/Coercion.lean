import PolicyGate.Proofs.Query.Acceptance

/-!
The two walks over trees, from the outside: which trees each of them accepts, and that all they change
is the leaves.
-/
namespace PolicyGate.Query

def Shallow (v : Value) : Prop := ∀ k w, v.HasNode k w → k ≤ 256

/-- A string between two marks is a date once all marks are dropped. -/
def LiteralsRead (v : Value) : Prop :=
  ∀ k s, v.HasNode k (.string s) →
    s.toList.head? = some dateMark → s.toList.getLast? = some dateMark →
      ∃ t, Timestamp.read? (String.ofList (s.toList.filter (· != dateMark))) = some t

/-- A key at any level is free of `$`, or is the name of an operator or stage. -/
def KeysAllowed (v : Value) : Prop :=
  ∀ k entries, v.HasNode k (.document entries) → ∀ key w, (key, w) ∈ entries →
    operatorMark ∉ key.toList ∨ ∃ name ∈ allowedOperators ++ allowedStages,
      Text.sameIgnoringCase (Text.trim key) name = true

/-- The second tree is the first with its leaves coerced: arrays keep their items in order, documents
their keys. -/
inductive Coerced : Value → Value → Prop where
  | leaf {v w : Value} : v.isLeaf = true → coerceLeaf v = .ok w → Coerced v w
  | array {items made : List Value} :
      List.Forall₂ Coerced items made → Coerced (.array items) (.array made)
  | document {entries made : Document} :
      Fields.keys made = Fields.keys entries →
      List.Forall₂ Coerced (entries.map Prod.snd) (made.map Prod.snd) →
        Coerced (.document entries) (.document made)

/-- What a walk from the root asks of a tree, in three parts. -/
theorem acceptable_root (isAllowed : String → Bool) (v : Value) :
    Acceptable isAllowed 0 v ↔ Shallow v ∧ LiteralsRead v ∧
      ∀ k entries, v.HasNode k (.document entries) →
        ∀ key w, (key, w) ∈ entries → isAllowed key = true := by
  constructor
  · intro acceptable
    refine ⟨?_, ?_, ?_⟩
    · intro k w node
      have shallow := (acceptable k w node).1
      rwa [Nat.zero_add] at shallow
    · intro k s node head last
      have fit := (acceptable k _ node).2
      exact Option.isSome_iff_exists.mp (fit ((isDateLiteral_iff s).mpr ⟨head, last⟩))
    · intro k entries node
      exact (acceptable k _ node).2
  · rintro ⟨shallow, literals, allowed⟩ k w node
    refine ⟨by rw [Nat.zero_add]; exact shallow k w node, ?_⟩
    cases w with
    | document entries => exact allowed k entries node
    | string s =>
      intro literal
      obtain ⟨head, last⟩ := (isDateLiteral_iff s).mp literal
      exact Option.isSome_iff_exists.mpr (literals k s node head last)
    | _ => trivial

theorem dated_coerced {isAllowed : String → Bool} {depth : Nat} {v : Value}
    (acceptable : Acceptable isAllowed depth v) (distinct : v.HasDistinctKeys) :
    Coerced v (dated v) := by
  induction v using Value.tree_induction generalizing depth with
  | leaf v leaf =>
    rw [dated, Value.mapLeaves_leaf datedLeaf leaf]
    have fit := ((acceptable_leaf leaf).mp acceptable).2
    exact .leaf leaf ((coerceLeaf_ok isAllowed leaf).mpr ⟨fit, rfl⟩)
  | array items ih =>
    have inside := (acceptable_array.mp acceptable).2
    have each := Value.hasDistinctKeys_array.mp distinct
    rw [dated, Value.mapLeaves, Value.mapItems_eq_map]
    apply Coerced.array
    rw [List.forall₂_map_right_iff, List.forall₂_same]
    intro v member
    exact ih v member (inside v member) (each v member)
  | document entries ih =>
    have inside := (acceptable_document.mp acceptable).2
    obtain ⟨here, each⟩ := Value.hasDistinctKeys_document.mp distinct
    rw [dated, Value.mapLeaves_document datedLeaf here]
    apply Coerced.document (Value.keys_mapEntries datedLeaf entries)
    rw [Value.mapEntries_eq_map, List.map_map, List.forall₂_map_left_iff,
      List.forall₂_map_right_iff, List.forall₂_same]
    rintro ⟨key, v⟩ member
    exact ih key v member (inside key v member).2 (each _ member)

theorem coerceDates_accepts (v : Value) :
    (∃ w, coerceDates v = .ok w) ↔ Shallow v ∧ LiteralsRead v := by
  simp only [coerceDates_ok, acceptable_root]
  constructor
  · rintro ⟨_, ⟨shallow, literals, _⟩, _⟩
    exact ⟨shallow, literals⟩
  · rintro ⟨shallow, literals⟩
    exact ⟨_, ⟨shallow, literals, fun _ _ _ _ _ _ => trivial⟩, rfl⟩

theorem sanitize_accepts (v : Value) :
    (∃ w, sanitize v = .ok w) ↔ (Shallow v ∧ LiteralsRead v) ∧ KeysAllowed v := by
  simp only [sanitize_ok, acceptable_root, isAllowedKey_iff, KeysAllowed]
  constructor
  · rintro ⟨_, ⟨shallow, literals, allowed⟩, _⟩
    exact ⟨⟨shallow, literals⟩, allowed⟩
  · rintro ⟨⟨shallow, literals⟩, allowed⟩
    exact ⟨_, ⟨shallow, literals, allowed⟩, rfl⟩

/-- Which trees the two walks accept, and what they make of them. The keys of a client's tree must be
allowed on top of all that is asked of a trusted one; where both walks pass, they agree. -/
theorem safe_trees_exact {v : Value} (distinct : v.HasDistinctKeys) :
    ((∃ w, coerceDates v = .ok w) ↔ Shallow v ∧ LiteralsRead v) ∧
      ((∃ w, sanitize v = .ok w) ↔ (∃ w, coerceDates v = .ok w) ∧ KeysAllowed v) ∧
      (∀ w, coerceDates v = .ok w → Coerced v w) ∧
      ∀ w, sanitize v = .ok w → Coerced v w ∧ coerceDates v = .ok w := by
  refine ⟨coerceDates_accepts v, ?_, ?_, ?_⟩
  · rw [coerceDates_accepts]
    exact sanitize_accepts v
  · intro w coerced
    obtain ⟨acceptable, rfl⟩ := coerceDates_ok.mp coerced
    exact dated_coerced acceptable distinct
  · intro w sanitized
    obtain ⟨acceptable, rfl⟩ := sanitize_ok.mp sanitized
    have readable := ((sanitize_accepts v).mp ⟨_, sanitized⟩).1
    obtain ⟨_, coerced⟩ := (coerceDates_accepts v).mpr readable
    have same := (coerceDates_ok.mp coerced).2
    exact ⟨dated_coerced acceptable distinct, same ▸ coerced⟩

def sampleTree : Value :=
  .array [.document [("$Match ", .document
    [("since", .string "##2021-05-01#"), ("team", .array []), ("note", .string "#1 of 2")])]]

theorem safe_trees_exact_sample :
    sampleTree.HasDistinctKeys ∧ ∃ w, sanitize sampleTree = .ok w ∧
      Coerced sampleTree w ∧ coerceDates sampleTree = .ok w := by
  have distinct : sampleTree.HasDistinctKeys := by
    have text (s : String) : (Value.string s).HasDistinctKeys := Value.hasDistinctKeys_leaf rfl
    simp [sampleTree, Value.hasDistinctKeys_array, Value.hasDistinctKeys_document, text,
      Fields.Distinct]
  have accepted : (sanitize sampleTree).toOption.isSome = true := by decide +kernel
  obtain ⟨w, made⟩ := Option.isSome_iff_exists.mp accepted
  have sanitized := Outcomes.toOption_eq_some.mp made
  exact ⟨distinct, w, sanitized, (safe_trees_exact distinct).2.2.2 w sanitized⟩

end PolicyGate.Query
