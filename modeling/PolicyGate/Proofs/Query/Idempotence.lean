import PolicyGate.Proofs.Grants.Scope
import PolicyGate.Proofs.Store.Seeding

/-!
Walks over trees that have been walked already. Literals of dates are read once: a tree without any is
left as it is, keys and all, so neither walk changes what one of the two has made.
-/
namespace PolicyGate.Query

variable {isAllowed : String → Bool} {depth : Nat} {v w : Value}

/-- Keys are distinct in every document, and no string is a literal of a date. -/
structure Settled (v : Value) : Prop where
  distinct : v.HasDistinctKeys
  unmarked : ∀ k s, v.HasNode k (.string s) → isDateLiteral s = false

theorem Settled.dated (settled : Settled v) : dated v = v := by
  apply Value.mapLeaves_of_fixed settled.distinct
  intro k u node leaf
  cases u with
  | string s => simp [datedLeaf, coerceLeaf, settled.unmarked k s node]
  | _ => rfl

theorem settled_dated (acceptable : Acceptable isAllowed depth v) : Settled (dated v) where
  distinct := Value.hasDistinctKeys_mapLeaves (fun _ => datedLeaf_isLeaf) v
  unmarked _ _ node := dated_string acceptable node

/-- A node of a settled tree is settled. -/
theorem Settled.node (settled : Settled v) {k : Nat} (below : v.HasNode k w) : Settled w where
  distinct j entries node := settled.distinct (k + j) entries (below.trans node)
  unmarked j s node := settled.unmarked (k + j) s (below.trans node)

theorem acceptable_dated (acceptable : Acceptable isAllowed depth v) :
    Acceptable isAllowed depth (dated v) := by
  intro k w node
  obtain ⟨u, below, _⟩ := Value.hasNode_mapLeaves (fun _ => datedLeaf_isLeaf) node
  refine ⟨(acceptable k u below).1, ?_⟩
  cases w with
  | document entries => exact fun key v member => dated_document acceptable node member
  | string s =>
    intro literal
    rw [dated_string acceptable node] at literal
    cases literal
  | _ => trivial

theorem Acceptable.node (acceptable : Acceptable isAllowed depth v) {k : Nat}
    (below : v.HasNode k w) : Acceptable isAllowed 0 w := by
  intro j u node
  obtain ⟨shallow, fit⟩ := acceptable (k + j) u (below.trans node)
  exact ⟨by omega, fit⟩

theorem Acceptable.trusted (acceptable : Acceptable isAllowed depth v) :
    Acceptable (fun _ => true) depth v := by
  intro k w node
  obtain ⟨shallow, fit⟩ := acceptable k w node
  refine ⟨shallow, ?_⟩
  cases w with
  | document entries => exact fun _ _ _ => rfl
  | _ => exact fit

/-- The result of a walk is acceptable and has no literal left, so it is what a walk makes of it. -/
theorem coerceAt_again (made : coerceAt isAllowed depth v = .ok w) :
    coerceAt isAllowed depth w = .ok w := by
  obtain ⟨acceptable, rfl⟩ := coerceAt_ok.mp made
  exact coerceAt_ok.mpr ⟨acceptable_dated acceptable, (settled_dated acceptable).dated⟩

theorem coerceDates_of_sanitize (made : sanitize v = .ok w) : coerceDates w = .ok w := by
  obtain ⟨acceptable, rfl⟩ := sanitize_ok.mp made
  exact coerceDates_ok.mpr
    ⟨(acceptable_dated acceptable).trusted, (settled_dated acceptable).dated⟩

theorem coerceDates_node {k : Nat} (still : coerceDates v = .ok v) (below : v.HasNode k w) :
    coerceDates w = .ok w := by
  obtain ⟨acceptable, same⟩ := coerceDates_ok.mp still
  have settled : Settled v := same ▸ settled_dated acceptable
  exact coerceDates_ok.mpr ⟨acceptable.node below, (settled.node below).dated⟩

/-- A predicate that came as a document with the seed is looked up as it is stored. -/
theorem seeded_predicate {s : Store} (seeded : s.Seeded) {collection : String} {d p : Document}
    (stored : d ∈ s.documents collection)
    (given : (Fields.get? d "predicate").or (Fields.get? d "pre") = some (.document p)) :
    coerceDates (.document p) = .ok (.document p) := by
  obtain ⟨x, loaded⟩ := seeded collection d stored
  have still : coerceDates (.document d) = .ok (.document d) := coerceAt_again loaded
  have entry : ∃ key, (key, Value.document p) ∈ d := by
    rcases Option.or_eq_some_iff.mp given with first | ⟨_, second⟩
    · exact ⟨_, Fields.mem_of_get? first⟩
    · exact ⟨_, Fields.mem_of_get? second⟩
  obtain ⟨key, member⟩ := entry
  exact coerceDates_node still (.entry member (.root _))

/-- What a walk has made stays as it is in every later walk, whether keys are checked or trusted. No
literal of a date is left in it, and a predicate that was loaded with a seed is the one that a lookup
works with. -/
theorem coercion_settles :
    (∀ v w, sanitize v = .ok w → sanitize w = .ok w ∧ coerceDates w = .ok w) ∧
      (∀ v w, coerceDates v = .ok w → coerceDates w = .ok w ∧
        ∀ k s, w.HasNode k (.string s) →
          ¬ (s.toList.head? = some dateMark ∧ s.toList.getLast? = some dateMark)) ∧
      ∀ seed s, Store.ofSeed seed = .ok s → ∀ collection, ∀ d ∈ s.documents collection, ∀ p,
        (Fields.get? d "predicate").or (Fields.get? d "pre") = some (.document p) →
          coerceDates (.document p) = .ok (.document p) ∧
          ∀ g, Grant.ofDocument collection d = .ok g → g.predicate = p ∧
            ∀ (r : Registry) prepared, r.prepare g = .ok prepared → prepared = g := by
  refine ⟨fun v w made => ⟨coerceAt_again made, coerceDates_of_sanitize made⟩, ?_, ?_⟩
  · intro v w made
    refine ⟨coerceAt_again made, fun k s node => ?_⟩
    obtain ⟨acceptable, rfl⟩ := coerceDates_ok.mp made
    rw [← isDateLiteral_iff, dated_string acceptable node]
    exact Bool.false_ne_true
  · intro seed s loaded collection d stored p given
    have still := seeded_predicate (Store.seeded_ofSeed loaded) stored given
    refine ⟨still, fun g decoded => ?_⟩
    have own : g.predicate = p := by
      have read := (Grant.ofDocument_ok.mp decoded).2.2.1
      rw [Grant.predicateOf, given] at read
      exact (Except.ok.inj read).symm
    refine ⟨own, fun r prepared made => ?_⟩
    obtain ⟨p', coerced, _, rfl⟩ := r.prepare_ok.mp made
    rw [own, still] at coerced
    cases coerced
    rw [← own]

def sinceMay : Json := .object [("since", .object [("$gte", .string "#2021-05-01#")])]

def datedSeed : Json :=
  .object [("security", .array [.object
    [("table", .string "people"), ("package", .string "gold"), ("predicate", sinceMay)]])]

theorem coercion_settles_dated :
    (∃ w, sanitize (Value.ofJson sinceMay) = .ok w ∧ sanitize w = .ok w ∧ coerceDates w = .ok w) ∧
      ∃ s, Store.ofSeed datedSeed = .ok s ∧ ∃ d ∈ s.documents "security", ∃ p,
        (Fields.get? d "predicate").or (Fields.get? d "pre") = some (.document p) ∧
        coerceDates (.document p) = .ok (.document p) := by
  obtain ⟨again, _, seeds⟩ := coercion_settles
  have accepted : (sanitize (Value.ofJson sinceMay)).toOption.isSome = true := by decide +kernel
  obtain ⟨w, made⟩ := Option.isSome_iff_exists.mp accepted
  have sanitized := Outcomes.toOption_eq_some.mp made
  refine ⟨⟨w, sanitized, again _ w sanitized⟩, ?_⟩
  have loads : (Store.ofSeed datedSeed).toOption.any (fun s =>
      (s.documents "security").any fun d =>
        (((Fields.get? d "predicate").or (Fields.get? d "pre")).bind Value.document?).isSome) =
      true := by
    decide +kernel
  obtain ⟨s, loaded, holds⟩ := Outcomes.toOption_any.mp loads
  obtain ⟨d, stored, holds⟩ := List.any_eq_true.mp holds
  obtain ⟨p, read⟩ := Option.isSome_iff_exists.mp holds
  obtain ⟨v, given, shown⟩ := Option.bind_eq_some_iff.mp read
  have given : (Fields.get? d "predicate").or (Fields.get? d "pre") = some (.document p) := by
    cases v <;> cases shown
    exact given
  exact ⟨s, loaded, d, stored, p, given, (seeds _ s loaded _ d stored p given).1⟩

end PolicyGate.Query
