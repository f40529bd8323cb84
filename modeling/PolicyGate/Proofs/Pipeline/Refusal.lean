import PolicyGate.Proofs.Pipeline.Reshaping

/-!
When pipelines are refused. Operands are judged without the documents, but a filter is evaluated only on
the documents that reach it: one that cannot be evaluated goes unnoticed as long as no document leads to
the place where it fails. A filter that passes the check takes no part in this.
-/
namespace PolicyGate.Pipeline

open Outcomes

variable {docs rows : List Document} {stages : List Document} {name : String} {operand : Value}

/-- What a projection may say of a field. -/
def IsFlag : Value → Prop
  | .bool _ => True
  | .int _ => True
  | .double _ => True
  | _ => False

/-- The fields of a projection, `_id` apart, are all to be kept or all to be left out. -/
def OfOneMind (flags : Document) : Prop :=
  ∀ a ∈ flags, ∀ b ∈ flags, a.1 ≠ "_id" → b.1 ≠ "_id" → a.2.isTruthy = b.2.isTruthy

def select (filter : Document) : Document := [("$match", .document filter)]

/-- Stages of one entry, with the name of a stage and an operand of the form that this stage takes. The
filter of a `$match` is any document. -/
inductive WellFormed : Document → Prop where
  | selection (filter : Document) : WellFormed (select filter)
  | limit {operand : Value} {n : Int64} :
      operand.integer? = some n → 0 < n → WellFormed [("$limit", operand)]
  | skip {operand : Value} {n : Int64} :
      operand.integer? = some n → 0 ≤ n → WellFormed [("$skip", operand)]
  | sort {directions : Document} : directions ≠ [] →
      (∀ entry ∈ directions, entry.2.integer? = some 1 ∨ entry.2.integer? = some (-1)) →
        WellFormed [("$sort", .document directions)]
  | project {flags : Document} : (∀ entry ∈ flags, IsFlag entry.2 ∧ '.' ∉ entry.1.toList) →
      OfOneMind flags → WellFormed [("$project", .document flags)]
  | unset (field : String) : WellFormed [("$unset", .string field)]
  | unsetAll {fields : List Value} : (∀ v ∈ fields, ∃ field, v = .string field) →
      WellFormed [("$unset", .array fields)]
  | count {field : String} : isPlainField field = true → WellFormed [("$count", .string field)]

theorem amount_ok {k : Nat} :
    amount name operand = .ok k ↔
      ∃ n, operand.integer? = some n ∧ 0 ≤ n ∧ n.toInt.toNat = k := by
  unfold amount
  cases operand.integer? with
  | none => simp
  | some n => by_cases counted : 0 ≤ n <;> simp [counted]

theorem sortKey_ok {path : String} {direction : Value} :
    (∃ key, sortKey path direction = .ok key) ↔
      direction.integer? = some 1 ∨ direction.integer? = some (-1) := by
  unfold sortKey
  by_cases up : direction.integer? = some 1
  · simp [up]
  · by_cases down : direction.integer? = some (-1) <;> simp [up, down]

theorem sortKeys_document {directions : Document} :
    (∃ keys, sortKeys (.document directions) = .ok keys) ↔ directions ≠ [] ∧
      ∀ entry ∈ directions, entry.2.integer? = some 1 ∨ entry.2.integer? = some (-1) := by
  cases directions with
  | nil => simp [sortKeys]
  | cons entry rest =>
    have each : (∃ keys, (entry :: rest).mapM (fun e => sortKey e.1 e.2) = .ok keys) ↔ _ :=
      exists_mapM_ok
    simp only [sortKey_ok] at each
    exact each.trans (and_iff_right (List.cons_ne_nil entry rest)).symm

theorem unsetFields_array {fields : List Value} :
    (∃ named, unsetFields (.array fields) = .ok named) ↔
      ∀ v ∈ fields, ∃ field, v = .string field := by
  refine exists_mapM_ok.trans (forall₂_congr fun v _ => ?_)
  cases v <;> simp

namespace Projection

variable {p q : Projection} {flags : Document}

/-- The projection with what is asked for one more field. -/
def noted (p : Projection) (entry : String × Value) : Projection :=
  if entry.1 = idField then { p with keepId := entry.2.isTruthy }
  else if entry.2.isTruthy then { p with included := p.included ++ [entry.1] }
  else { p with excluded := p.excluded ++ [entry.1] }

theorem add_ok {field : String} {flag : Value} :
    p.add field flag = .ok q ↔ (IsFlag flag ∧ '.' ∉ field.toList) ∧ p.noted (field, flag) = q := by
  have plain : (if field.toList.contains '.' then
      Except.error (StoreFault.unsupported "nested projections")
      else if field = idField then .ok { p with keepId := flag.isTruthy }
      else if flag.isTruthy then .ok { p with included := p.included ++ [field] }
      else .ok { p with excluded := p.excluded ++ [field] }) = .ok q ↔
        '.' ∉ field.toList ∧ p.noted (field, flag) = q := by
    unfold noted
    by_cases nested : '.' ∈ field.toList
    · simp [nested]
    · by_cases own : field = idField
      · simp [own, idField]
      · by_cases wanted : flag.isTruthy = true <;> simp [nested, own, wanted]
  rw [and_assoc, ← plain]
  cases flag <;> simp [IsFlag, add]

theorem foldlM_add_ok :
    flags.foldlM (fun p (field, flag) => p.add field flag) p = .ok q ↔
      (∀ entry ∈ flags, IsFlag entry.2 ∧ '.' ∉ entry.1.toList) ∧ flags.foldl noted p = q := by
  induction flags generalizing p with
  | nil => simp [pure, Except.pure]
  | cons entry rest ih =>
    rw [List.foldlM_cons, bind_ok, List.forall_mem_cons, List.foldl_cons]
    simp only [add_ok, ih]
    constructor
    · rintro ⟨_, ⟨first, rfl⟩, others, made⟩
      exact ⟨⟨first, others⟩, made⟩
    · rintro ⟨⟨first, others⟩, made⟩
      exact ⟨_, ⟨first, rfl⟩, others, made⟩

/-- The fields, `_id` apart, that are flagged to be kept, or to be left out. -/
def named (flags : Document) (keep : Bool) : List String :=
  (flags.filter fun entry => entry.1 ≠ idField && entry.2.isTruthy == keep).map Prod.fst

theorem foldl_noted (flags : Document) (p : Projection) :
    (flags.foldl noted p).included = p.included ++ named flags true ∧
      (flags.foldl noted p).excluded = p.excluded ++ named flags false := by
  induction flags generalizing p with
  | nil => simp [named]
  | cons entry rest ih =>
    rw [List.foldl_cons, (ih _).1, (ih _).2]
    unfold noted named
    by_cases own : entry.1 = idField
    · simp [own]
    · cases wanted : entry.2.isTruthy <;> simp [own, wanted]

theorem named_eq_nil {keep : Bool} : named flags keep = [] ↔
    ∀ entry ∈ flags, entry.1 ≠ idField → entry.2.isTruthy = !keep := by
  cases keep <;> simp [named, List.filter_eq_nil_iff]

/-- Some field is to be kept and some other to be left out, or all are of one mind. -/
theorem ofOneMind_iff : OfOneMind flags ↔
    (flags.foldl noted {}).included = [] ∨ (flags.foldl noted {}).excluded = [] := by
  obtain ⟨kept, dropped⟩ := foldl_noted flags {}
  rw [kept, dropped, List.nil_append, List.nil_append, named_eq_nil, named_eq_nil]
  constructor
  · intro agreed
    by_contra mixed
    push Not at mixed
    obtain ⟨⟨a, inA, namedA, kept⟩, b, inB, namedB, dropped⟩ := mixed
    have same := agreed a inA b inB namedA namedB
    simp_all
  · rintro (dropped | kept) a inA b inB namedA namedB
    · rw [dropped a inA namedA, dropped b inB namedB]
    · rw [kept a inA namedA, kept b inB namedB]

theorem ofValue_document : (∃ p, ofValue (.document flags) = .ok p) ↔
    (∀ entry ∈ flags, IsFlag entry.2 ∧ '.' ∉ entry.1.toList) ∧ OfOneMind flags := by
  rw [ofOneMind_iff]
  unfold ofValue
  simp only [bind_ok, foldlM_add_ok]
  constructor
  · rintro ⟨p, q, ⟨plain, rfl⟩, chosen⟩
    split at chosen
    · cases chosen
    · rename_i agreed
      exact ⟨plain, by simpa [or_iff_not_imp_left] using agreed⟩
  · rintro ⟨plain, agreed⟩
    exact ⟨_, _, ⟨plain, rfl⟩, if_neg (by simpa [or_iff_not_imp_left] using agreed)⟩

end Projection

/-- What a step makes of documents, or the fault by which it refuses them, is settled before any of them
is looked at. -/
def Judged (step : List Document → Except StoreFault (List Document)) : Prop :=
  ∃ verdict : Except StoreFault (List Document → List Document),
    ∀ docs, step docs = verdict.map fun made => made docs

theorem Judged.error_iff {step : List Document → Except StoreFault (List Document)}
    (judged : Judged step) (docs docs' : List Document) (fault : StoreFault) :
    step docs = .error fault ↔ step docs' = .error fault := by
  obtain ⟨verdict, made⟩ := judged
  rw [made, made, map_error, map_error]

theorem Judged.made (f : List Document → List Document) : Judged fun docs => .ok (f docs) :=
  ⟨.ok f, fun _ => rfl⟩

theorem Judged.refused (fault : StoreFault) : Judged fun _ => .error fault :=
  ⟨.error fault, fun _ => rfl⟩

theorem Judged.bind {α : Type} {next : α → List Document → Except StoreFault (List Document)}
    (judged : ∀ a, Judged (next a)) (read : Except StoreFault α) :
    Judged fun docs => read >>= fun a => next a docs := by
  cases read with
  | error fault => exact .refused fault
  | ok a => exact judged a

theorem Judged.comp {first second : List Document → Except StoreFault (List Document)}
    (one : Judged first) (two : Judged second) : Judged fun docs => first docs >>= second := by
  obtain ⟨verdict, made⟩ := one
  simp only [made]
  cases verdict with
  | error fault => exact .refused fault
  | ok f =>
    obtain ⟨later, made⟩ := two
    exact ⟨later.map fun g => g ∘ f, fun docs => by cases later <;> exact made (f docs)⟩

theorem runStage_judged (plain : name ≠ "$match") (operand : Value) :
    Judged fun docs => runStage docs name operand := by
  unfold runStage
  split
  · exact absurd rfl plain
  · refine .bind (fun n => ?_) _
    split
    · exact .refused _
    · exact .made _
  · exact .bind (fun n => .made _) _
  · exact .bind (fun keys => .made _) _
  · exact .bind (fun p => .made _) _
  · exact .bind (fun fields => .made _) _
  · split
    · split
      · exact .made _
      · exact .refused _
    · exact .refused _
  · exact .refused _

/-- Only the filter of a `$match` is not judged before the documents are. -/
theorem applyStage_judged {stage : Document} (plain : ∀ filter, stage ≠ select filter) :
    Judged fun docs => applyStage docs stage := by
  unfold applyStage
  split
  · rename_i name operand
    by_cases matched : name = "$match"
    · subst matched
      cases operand with
      | document filter => exact absurd rfl (plain filter)
      | _ => exact .refused _
    · exact runStage_judged matched operand
  · exact .refused _

theorem applyStage_checked {stage : Document}
    (checked : ∀ filter, stage = select filter → Filter.check filter = .ok ()) :
    Judged fun docs => applyStage docs stage := by
  by_cases plain : ∀ filter, stage ≠ select filter
  · exact applyStage_judged plain
  · push Not at plain
    obtain ⟨filter, rfl⟩ := plain
    refine ⟨.ok (List.filter (Filter.accepts filter)), fun docs => ?_⟩
    exact matching_ok fun d _ => Filter.holds_settles d filter (checked filter rfl)

theorem run_checked
    (checked : ∀ filter, select filter ∈ stages → Filter.check filter = .ok ()) :
    Judged fun docs => run docs stages := by
  induction stages with
  | nil => exact .made id
  | cons stage rest ih =>
    simp only [run_cons]
    have now : Judged fun docs => applyStage docs stage :=
      applyStage_checked fun filter same => checked filter (same ▸ List.mem_cons_self)
    exact now.comp (ih fun filter member => checked filter (List.mem_cons_of_mem stage member))

theorem matching_refused {filter : Document} :
    (∃ fault, matching filter docs = .error fault) ↔
      ∃ d ∈ docs, ∃ fault, Filter.holds d filter = .error fault := by
  induction docs with
  | nil => simp [matching]
  | cons d rest ih =>
    rw [List.exists_mem_cons_iff, ← ih, matching]
    cases Filter.holds d filter with
    | error fault => simp
    | ok b => cases b <;> simp [map_error]

theorem toNat_eq_zero_iff {n : Int64} (counted : 0 ≤ n) : n.toInt.toNat = 0 ↔ ¬ 0 < n := by
  have low := Int64.le_iff_toInt_le.mp counted
  rw [Int64.lt_iff_toInt_lt]
  rw [Int64.toInt_zero] at *
  omega

theorem wellFormed_of_runStage (ran : runStage docs name operand = .ok rows) :
    WellFormed [(name, operand)] := by
  unfold runStage at ran
  split at ran
  · split at ran
    · exact .selection _
    · cases ran
  · obtain ⟨k, read, taken⟩ := bind_ok.mp ran
    obtain ⟨n, given, counted, rfl⟩ := amount_ok.mp read
    split at taken
    · cases taken
    · rename_i some
      exact .limit given (not_not.mp ((toNat_eq_zero_iff counted).not.mp some))
  · obtain ⟨k, read, _⟩ := bind_ok.mp ran
    obtain ⟨n, given, counted, _⟩ := amount_ok.mp read
    exact .skip given counted
  · obtain ⟨keys, read, _⟩ := bind_ok.mp ran
    cases operand with
    | document directions =>
      obtain ⟨some, directed⟩ := sortKeys_document.mp ⟨keys, read⟩
      exact .sort some directed
    | _ => cases read
  · obtain ⟨p, read, _⟩ := bind_ok.mp ran
    cases operand with
    | document flags =>
      obtain ⟨plain, agreed⟩ := Projection.ofValue_document.mp ⟨p, read⟩
      exact .project plain agreed
    | _ => cases read
  · obtain ⟨fields, read, _⟩ := bind_ok.mp ran
    cases operand with
    | string field => exact .unset field
    | array items => exact .unsetAll (unsetFields_array.mp ⟨fields, read⟩)
    | _ => cases read
  · split at ran
    · split at ran
      · rename_i plain
        exact .count plain
      · cases ran
    · cases ran
  · cases ran

/-- A stage that is well-formed does its work on any documents, unless its filter fails on one. -/
theorem WellFormed.runs {stage : Document} (formed : WellFormed stage)
    (plain : ∀ filter, stage ≠ select filter) (docs : List Document) :
    ∃ rows, applyStage docs stage = .ok rows := by
  cases formed with
  | selection filter => exact absurd rfl (plain filter)
  | @limit operand n given positive =>
    have counted : 0 ≤ n := Int64.le_of_lt positive
    have read : amount "$limit" operand = .ok n.toInt.toNat := amount_ok.mpr ⟨n, given, counted, rfl⟩
    have some : ¬ n.toInt.toNat = 0 := fun none => (toNat_eq_zero_iff counted).mp none positive
    exact ⟨_, bind_ok.mpr ⟨_, read, if_neg some⟩⟩
  | @skip operand n given counted =>
    have read : amount "$skip" operand = .ok n.toInt.toNat := amount_ok.mpr ⟨n, given, counted, rfl⟩
    exact ⟨_, bind_ok.mpr ⟨_, read, rfl⟩⟩
  | sort some directed =>
    obtain ⟨keys, read⟩ := sortKeys_document.mpr ⟨some, directed⟩
    exact ⟨_, bind_ok.mpr ⟨keys, read, rfl⟩⟩
  | project flags agreed =>
    obtain ⟨p, read⟩ := Projection.ofValue_document.mpr ⟨flags, agreed⟩
    exact ⟨_, bind_ok.mpr ⟨p, read, rfl⟩⟩
  | unset field => exact ⟨_, rfl⟩
  | unsetAll named =>
    obtain ⟨fields, read⟩ := unsetFields_array.mpr named
    exact ⟨_, bind_ok.mpr ⟨fields, read, rfl⟩⟩
  | count field => exact ⟨_, if_pos field⟩

theorem applyStage_refused {stage : Document} :
    (∃ fault, applyStage docs stage = .error fault) ↔ ¬ WellFormed stage ∨
      ∃ filter, stage = select filter ∧ ∃ d ∈ docs, ∃ fault, Filter.holds d filter = .error fault := by
  by_cases plain : ∀ filter, stage ≠ select filter
  · have formed : WellFormed stage ↔ ∃ rows, applyStage docs stage = .ok rows := by
      refine ⟨fun formed => formed.runs plain docs, ?_⟩
      rintro ⟨rows, ran⟩
      obtain ⟨name, operand, rfl, ran⟩ := applyStage_ok.mp ran
      exact wellFormed_of_runStage ran
    rw [exists_error, ← formed, or_iff_left]
    rintro ⟨filter, same, _⟩
    exact plain filter same
  · push Not at plain
    obtain ⟨filter, rfl⟩ := plain
    refine matching_refused.trans ⟨fun fails => .inr ⟨filter, rfl, fails⟩, ?_⟩
    rintro (deformed | ⟨_, same, fails⟩)
    · exact absurd (.selection filter) deformed
    · cases same
      exact fails

/-- Some document gets to a `$match` whose filter fails on it. -/
inductive Trips : List Document → List Document → Prop where
  | here {docs rest : List Document} {filter d : Document} {fault : StoreFault} :
      d ∈ docs → Filter.holds d filter = .error fault → Trips docs (select filter :: rest)
  | later {docs rows rest : List Document} {stage : Document} :
      applyStage docs stage = .ok rows → Trips rows rest → Trips docs (stage :: rest)

theorem trips_cons {stage : Document} {rest : List Document} :
    Trips docs (stage :: rest) ↔
      (∃ filter, stage = select filter ∧ ∃ d ∈ docs, ∃ fault, Filter.holds d filter = .error fault) ∨
        ∃ rows, applyStage docs stage = .ok rows ∧ Trips rows rest := by
  constructor
  · intro trips
    cases trips with
    | here member fails => exact .inl ⟨_, rfl, _, member, _, fails⟩
    | later ran trips => exact .inr ⟨_, ran, trips⟩
  · rintro (⟨filter, rfl, d, member, fault, fails⟩ | ⟨rows, ran, trips⟩)
    · exact .here member fails
    · exact .later ran trips

/-- A run is refused for a stage that is not well-formed, wherever it stands, or for a document. -/
theorem run_refused :
    (∃ fault, run docs stages = .error fault) ↔
      (∃ stage ∈ stages, ¬ WellFormed stage) ∨ Trips docs stages := by
  induction stages generalizing docs with
  | nil =>
    refine ⟨fun ⟨_, ran⟩ => (by cases ran), ?_⟩
    rintro (⟨_, member, _⟩ | trips)
    · cases member
    · cases trips
  | cons stage rest ih =>
    rw [run_cons, List.exists_mem_cons_iff, trips_cons]
    cases ran : applyStage docs stage with
    | error fault =>
      have refused := applyStage_refused.mp ⟨fault, ran⟩
      have stops : ∃ e, (Except.error fault >>= fun kept => run kept rest) = .error e := ⟨fault, rfl⟩
      rw [iff_true_left stops]
      exact refused.imp .inl .inl
    | ok rows =>
      have passed : ¬ ∃ fault, applyStage docs stage = .error fault := by
        rw [exists_error, not_not]
        exact ⟨rows, ran⟩
      rw [applyStage_refused, not_or, not_not] at passed
      have goes : (Except.ok rows >>= fun kept => run kept rest) = run rows rest := rfl
      rw [goes, ih]
      simp [passed.1, passed.2]

/-- Where no stage counts and all are well-formed, nothing is refused on no documents: whatever filters
cannot be evaluated. -/
theorem run_nil (formed : ∀ stage ∈ stages, WellFormed stage ∧ ¬ Counts stage) :
    run [] stages = .ok [] := by
  induction stages with
  | nil => rfl
  | cons stage rest ih =>
    obtain ⟨proper, plain⟩ := formed stage List.mem_cons_self
    have runs : ∃ rows, applyStage [] stage = .ok rows := by
      by_contra refused
      rw [← exists_error, applyStage_refused] at refused
      simp [proper] at refused
    obtain ⟨rows, ran⟩ := runs
    have none : rows = [] := by
      have reshaped := applyStage_reshapes (by simp) plain ran
      exact List.eq_nil_of_length_eq_zero (Nat.le_zero.mp reshaped.length_le)
    rw [run_cons, ran, none]
    exact ih fun later member => formed later (List.mem_cons_of_mem stage member)

/-- When a pipeline is refused, exactly. A stage that is not well-formed refuses all documents, and else
it takes a document on which the filter of a `$match` fails. No documents make a filter fail that passes
the check: where all filters do, a pipeline is refused for all documents with the same fault or for none.
Filters that do not are not looked at while no document is there. -/
theorem refusal_exact (stages : List Document) :
    (∀ docs, (∃ fault, run docs stages = .error fault) ↔
        (∃ stage ∈ stages, ¬ WellFormed stage) ∨ Trips docs stages) ∧
      ((∀ filter, select filter ∈ stages → Filter.check filter = .ok ()) →
        ∀ docs docs' fault, run docs stages = .error fault ↔ run docs' stages = .error fault) ∧
      ((∀ stage ∈ stages, WellFormed stage ∧ ¬ Counts stage) → run [] stages = .ok []) := by
  refine ⟨fun docs => run_refused, ?_, run_nil⟩
  intro checked docs docs' fault
  exact (run_checked checked).error_iff docs docs' fault

def adults : Document := [("age", .document [("$gte", .int 18)])]

/-- The operator `$mod` may be asked for, but the store does not run it. -/
def evenAges : Document := [("age", .document [("$mod", .array [.int 2, .int 0])])]

theorem refusal_exact_samples :
    Filter.check adults = .ok () ∧
      (∀ docs docs' fault, run docs [select adults, [("$limit", .int 0)]] = .error fault ↔
        run docs' [select adults, [("$limit", .int 0)]] = .error fault) ∧
      (∃ fault, run [[("age", .int 7)]] [select evenAges] = .error fault) ∧
      run [] [select evenAges] = .ok [] := by
  have checked : Filter.check adults = .ok () := rfl
  refine ⟨checked, ?_, ?_, ?_⟩
  · apply (refusal_exact [select adults, [("$limit", .int 0)]]).2.1
    intro filter member
    rcases List.mem_pair.mp member with same | other
    · cases same
      exact checked
    · simp [select] at other
  · apply ((refusal_exact [select evenAges]).1 _).mpr
    have fails : Filter.holds [("age", .int 7)] evenAges = .error (.operator "$mod") := by
      decide +kernel
    exact .inr (.here List.mem_cons_self fails)
  · apply (refusal_exact [select evenAges]).2.2
    intro stage member
    cases List.mem_singleton.mp member
    exact ⟨.selection evenAges, by simp [Counts, select, Fields.keys]⟩

/-- An operator that is not run is refused or passed over, depending on whether there is a document. -/
theorem refusal_depends_on_documents :
    ¬ ∀ stages docs docs', (∃ fault, run docs stages = .error fault) ↔
      ∃ fault, run docs' stages = .error fault := by
  intro independent
  have fails : run [[("age", .int 7)]] [select evenAges] = .error (.operator "$mod") := rfl
  obtain ⟨fault, refused⟩ :=
    (independent [select evenAges] [[("age", .int 7)]] []).mp ⟨_, fails⟩
  cases refused

end PolicyGate.Pipeline
