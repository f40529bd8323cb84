import PolicyGate.Proofs.Grants.Lookup

/-!
The shape of compiled pipelines, whatever the client has sent: the stage of the grants comes first, then
what the client asked for, with allowed keys only, then a limit at most. No literal of a date is left.
-/
namespace PolicyGate.Query

open Outcomes

theorem assemble_ok {grants : List Grant} {query : Option Value} {enforceRowLimit : Bool}
    {pipeline : List Document} :
    assemble grants query enforceRowLimit = .ok pipeline ↔
      grants ≠ [] ∧ ∃ clean clientStages, sanitize (orEmpty query) = .ok clean ∧
        stages clean = .ok clientStages ∧
        pipeline = securityStage grants :: clientStages ++ limitStages enforceRowLimit grants := by
  rw [assemble]
  cases grants with
  | nil =>
    constructor
    · intro h
      cases h
    · rintro ⟨some, _⟩
      exact absurd rfl some
  | cons g rest =>
    simp only [List.isEmpty_cons, Bool.false_eq_true, if_false, ne_eq, reduceCtorEq,
      not_false_eq_true, true_and]
    constructor
    · intro h
      obtain ⟨clean, sanitized, h⟩ := bind_ok.mp h
      obtain ⟨clientStages, staged, h⟩ := bind_ok.mp h
      cases h
      exact ⟨clean, clientStages, sanitized, staged, rfl⟩
    · rintro ⟨clean, clientStages, sanitized, staged, rfl⟩
      exact bind_ok.mpr ⟨clean, sanitized, bind_ok.mpr ⟨clientStages, staged, rfl⟩⟩

theorem compile_ok {r : Registry} {enforceRowLimit : Bool} {table : String}
    {packages : List String} {query : Option Value} {compiled : CompiledQuery} :
    compile r enforceRowLimit table packages query = .ok compiled ↔
      ∃ grants resolution pipeline, r.grants table packages = .ok grants ∧
        r.resolve table packages = .ok resolution ∧
        assemble grants query enforceRowLimit = .ok pipeline ∧
        compiled = ⟨table, resolution, pipeline⟩ := by
  rw [compile]
  constructor
  · intro h
    obtain ⟨grants, granted, h⟩ := bind_ok.mp h
    obtain ⟨resolution, resolved, h⟩ := bind_ok.mp h
    obtain ⟨pipeline, assembled, h⟩ := bind_ok.mp h
    cases h
    exact ⟨grants, resolution, pipeline, granted, resolved, assembled, rfl⟩
  · rintro ⟨grants, resolution, pipeline, granted, resolved, assembled, rfl⟩
    exact bind_ok.mpr ⟨grants, granted, bind_ok.mpr ⟨resolution, resolved,
      bind_ok.mpr ⟨pipeline, assembled, rfl⟩⟩⟩

/-- The stages that a client's query asks for, its literals of dates read. -/
inductive StandsFor : Option Value → List Document → Prop where
  | missing : StandsFor none []
  | null : StandsFor (some .null) []
  | pipeline {items : List Value} {stages : List Document} :
      items.map dated = stages.map .document → StandsFor (some (.array items)) stages
  | filter {entries filter : Document} :
      dated (.document entries) = .document filter →
        StandsFor (some (.document entries)) [[("$match", .document filter)]]

theorem stage_ok {v : Value} {d : Document} : stage v = .ok d ↔ v = .document d := by
  cases v <;> simp [stage]

theorem mapM_stage_ok {items : List Value} {made : List Document} :
    items.mapM stage = .ok made ↔ items = made.map .document := by
  rw [mapM_ok]
  simp only [stage_ok]
  rw [← List.forall₂_map_right_iff (f := Value.document), List.forall₂_eq_eq_eq]

theorem stages_leaf {v : Value} (leaf : v.isLeaf = true) (made : List Document) :
    stages v ≠ .ok made := by
  intro staged
  cases v with
  | array items => cases leaf
  | document entries => cases leaf
  | _ => cases staged

theorem stages_error {v : Value} {fault : QueryFault} (failed : stages v = .error fault) :
    ∃ detail, fault = .malformedQuery detail := by
  cases v with
  | array items =>
    obtain ⟨_, item, _, _, _, unstaged⟩ := mapM_error.mp failed
    cases item <;> cases unstaged <;> exact ⟨_, rfl⟩
  | document entries => cases failed
  | _ =>
    cases failed
    exact ⟨_, rfl⟩

theorem standsFor {query : Option Value} {clean : Value} {clientStages : List Document}
    (sanitized : sanitize (orEmpty query) = .ok clean) (staged : stages clean = .ok clientStages) :
    StandsFor query clientStages := by
  obtain ⟨_, rfl⟩ := sanitize_ok.mp sanitized
  cases query with
  | none =>
    cases staged
    exact .missing
  | some v =>
    cases v with
    | null =>
      cases staged
      exact .null
    | array items =>
      have each := mapM_stage_ok.mp staged
      rw [Value.mapItems_eq_map] at each
      exact .pipeline each
    | document entries =>
      cases staged
      exact .filter rfl
    | _ =>
      refine absurd staged (stages_leaf ?_ clientStages)
      apply dated_isLeaf
      rfl

theorem standsFor_node {query : Option Value} {clientStages : List Document}
    (asked : StandsFor query clientStages) {stage : Document} (member : stage ∈ clientStages)
    {k : Nat} {w : Value} (node : (Value.document stage).HasNode k w) :
    (∃ j, (dated (orEmpty query)).HasNode j w) ∨
      w = .document [("$match", dated (orEmpty query))] := by
  cases asked with
  | missing => cases member
  | null => cases member
  | @pipeline items _ each =>
    have inside : Value.document stage ∈ items.map dated := by
      rw [each]
      exact List.mem_map_of_mem member
    refine .inl ⟨k + 1, ?_⟩
    rw [orEmpty, dated, Value.mapLeaves, Value.mapItems_eq_map]
    · exact .item inside node
    · intro h
      cases h
  | filter same =>
    cases List.mem_singleton.mp member
    rw [orEmpty, same]
    · exact (Value.hasNode_single node).symm
    · intro h
      cases h

theorem isAllowedKey_match : isAllowedKey "$match" = true :=
  (isAllowedKey_iff "$match").mpr
    (.inr ⟨"$match", List.mem_append_right _ (by simp [allowedStages]), by decide⟩)

theorem isDateLiteral_eq_false {s : String} (plain : isDateLiteral s = false) :
    ¬ (s.toList.head? = some dateMark ∧ s.toList.getLast? = some dateMark) := by
  rw [← isDateLiteral_iff, plain]
  exact Bool.false_ne_true

theorem limitStages_cases (enforceRowLimit : Bool) (grants : List Grant) :
    limitStages enforceRowLimit grants = [] ∨
      ∃ n, limitStages enforceRowLimit grants = [[("$limit", .int n)]] := by
  unfold limitStages
  split
  · cases rowLimit grants with
    | none => exact .inl rfl
    | some n => exact .inr ⟨Int64.ofNat n, rfl⟩
  · exact .inl rfl

theorem clientStages_key {query : Option Value} {clientStages : List Document}
    (acceptable : Acceptable isAllowedKey 0 (orEmpty query))
    (asked : StandsFor query clientStages) {stage : Document} (member : stage ∈ clientStages)
    {k : Nat} {entries : Document} (node : (Value.document stage).HasNode k (.document entries))
    {key : String} {v : Value} (entry : (key, v) ∈ entries) : isAllowedKey key = true := by
  rcases standsFor_node asked member node with ⟨j, below⟩ | same
  · exact dated_document acceptable below entry
  · cases same
    cases List.mem_singleton.mp entry
    exact isAllowedKey_match

theorem clientStages_string {query : Option Value} {clientStages : List Document}
    (acceptable : Acceptable isAllowedKey 0 (orEmpty query))
    (asked : StandsFor query clientStages) {stage : Document} (member : stage ∈ clientStages)
    {k : Nat} {s : String} (node : (Value.document stage).HasNode k (.string s)) :
    isDateLiteral s = false := by
  rcases standsFor_node asked member node with ⟨j, below⟩ | same
  · exact dated_string acceptable below
  · cases same

theorem securityStage_string {predicates : List Document}
    (read : ∀ p ∈ predicates, ∃ v, coerceDates v = .ok (.document p)) {k : Nat} {s : String}
    (node : (Value.document [("$match", .document (anyPredicate predicates))]).HasNode k
      (.string s)) : isDateLiteral s = false := by
  rcases Value.hasNode_single node with same | ⟨_, node⟩
  · cases same
  rcases Value.hasNode_single node with same | ⟨_, node⟩
  · cases same
  cases node with
  | item member below =>
    obtain ⟨p, inside, rfl⟩ := List.mem_map.mp member
    obtain ⟨v, reads⟩ := read p inside
    obtain ⟨acceptable, same⟩ := coerceDates_ok.mp reads
    rw [← same] at below
    exact dated_string acceptable below

/-- A pipeline that keeps what one of `predicates` accepts, goes on with what `query` asks for, and may
end with a limit. The client's keys are allowed and no literal of a date is left, both at any depth. -/
structure Secured (predicates : List Document) (query : Option Value)
    (clientStages limit pipeline : List Document) : Prop where
  granted : predicates ≠ []
  stages : pipeline = [("$match", .document (anyPredicate predicates))] :: clientStages ++ limit
  asked : StandsFor query clientStages
  limited : limit = [] ∨ ∃ n, limit = [[("$limit", .int n)]]
  allowed : ∀ stage ∈ clientStages, ∀ k entries,
    (Value.document stage).HasNode k (.document entries) → ∀ key v, (key, v) ∈ entries →
      operatorMark ∉ key.toList ∨ ∃ name ∈ allowedOperators ++ allowedStages,
        Text.sameIgnoringCase (Text.trim key) name = true
  unmarked : ∀ stage ∈ pipeline, ∀ k s, (Value.document stage).HasNode k (.string s) →
    ¬ (s.toList.head? = some dateMark ∧ s.toList.getLast? = some dateMark)

theorem assemble_secured {grants : List Grant} {query : Option Value} {enforceRowLimit : Bool}
    {pipeline : List Document}
    (read : ∀ g ∈ grants, ∃ v, coerceDates v = .ok (.document g.predicate))
    (assembled : assemble grants query enforceRowLimit = .ok pipeline) :
    ∃ clientStages limit,
      Secured (grants.map Grant.predicate) query clientStages limit pipeline := by
  obtain ⟨some, clean, clientStages, sanitized, staged, rfl⟩ := assemble_ok.mp assembled
  have asked := standsFor sanitized staged
  have acceptable := (sanitize_ok.mp sanitized).1
  refine ⟨clientStages, limitStages enforceRowLimit grants, ?_⟩
  constructor
  · simpa using some
  · rw [securityStage_eq]
  · exact asked
  · exact limitStages_cases enforceRowLimit grants
  · intro stage member k entries node key v entry
    exact (isAllowedKey_iff key).mp (clientStages_key acceptable asked member node entry)
  · intro stage member k s node
    apply isDateLiteral_eq_false
    rcases List.mem_append.mp member with member | member
    · rcases List.mem_cons.mp member with rfl | member
      · rw [securityStage_eq] at node
        exact securityStage_string (by simpa using read) node
      · exact clientStages_string acceptable asked member node
    · rcases limitStages_cases enforceRowLimit grants with none | ⟨n, one⟩
      · rw [none] at member
        cases member
      · rw [one] at member
        cases List.mem_singleton.mp member
        rcases Value.hasNode_single node with same | ⟨_, node⟩
        · cases same
        · cases node

/-- Whatever the client sends, a compiled pipeline is secured by the predicates of the grants that the
lookup finds, in the order in which they are stored. -/
theorem compiled_pipeline_secured {r : Registry} {enforceRowLimit : Bool} {table : String}
    {packages : List String} {query : Option Value} {compiled : CompiledQuery}
    (accepted : compile r enforceRowLimit table packages query = .ok compiled) :
    ∃ docs stored predicates clientStages limit,
      r.backend.find r.grantCollection (Registry.scopedFilter "table" table packages) = .ok docs ∧
      (∀ s : Store, r.backend = s.backend →
        docs = (s.documents r.grantCollection).filter
          (Filter.accepts (Registry.scopedFilter "table" table packages))) ∧
      List.Forall₂ (fun d g => Grant.ofDocument r.grantCollection d = .ok g) docs stored ∧
      List.Forall₂ (fun g p => coerceDates (.document g.predicate) = .ok (.document p)) stored
        predicates ∧
      Secured predicates query clientStages limit compiled.pipeline := by
  obtain ⟨grants, resolution, pipeline, granted, _, assembled, rfl⟩ := compile_ok.mp accepted
  obtain ⟨stored, found, _, each⟩ := r.grants_ok.mp granted
  obtain ⟨docs, searched, decoded⟩ := r.storedGrants_ok.mp found
  have read : List.Forall₂ (fun (g prepared : Grant) =>
      coerceDates (.document g.predicate) = .ok (.document prepared.predicate)) stored grants := by
    refine each.imp fun g prepared made => ?_
    obtain ⟨p, read, _, rfl⟩ := r.prepare_ok.mp made
    exact read
  obtain ⟨clientStages, limit, secured⟩ := assemble_secured (fun prepared member => by
    obtain ⟨g, _, reads⟩ := exists_of_mem_right read member
    exact ⟨_, reads⟩) assembled
  refine ⟨docs, stored, grants.map Grant.predicate, clientStages, limit, searched, ?_, decoded,
    List.forall₂_map_right_iff.mpr read, secured⟩
  intro s memory
  rw [memory] at searched
  have inMemory := Registry.find_scopedFilter s r.grantCollection (.inl rfl) table packages
  exact Except.ok.inj (searched.symm.trans inMemory)

def sampleQuery : Value :=
  .array [.document [("$match", .document [("since", .string "#2021-05-01#")])]]

theorem compiled_pipeline_secured_sample :
    ∃ compiled, compile { backend := Registry.sampleStore.backend } true "people" ["gold"]
        (some sampleQuery) = .ok compiled ∧
      ∃ predicates clientStages limit,
        Secured predicates (some sampleQuery) clientStages limit compiled.pipeline := by
  have accepted : (compile { backend := Registry.sampleStore.backend } true "people" ["gold"]
      (some sampleQuery)).toOption.isSome = true := by
    decide +kernel
  obtain ⟨compiled, made⟩ := Option.isSome_iff_exists.mp accepted
  have accepted := toOption_eq_some.mp made
  obtain ⟨_, _, predicates, clientStages, limit, _, _, _, _, secured⟩ :=
    compiled_pipeline_secured accepted
  exact ⟨compiled, accepted, predicates, clientStages, limit, secured⟩

end PolicyGate.Query
