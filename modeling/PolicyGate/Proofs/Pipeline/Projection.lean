import PolicyGate.Proofs.Pipeline.Refusal

/-!
What a projection keeps of a document. It keeps the fields that its specification asks for, with one
exception: a specification that flags `_id` alone, to be kept, leaves the documents as they are.
-/
namespace PolicyGate.Pipeline

open Outcomes

variable {flags : Document} {docs rows : List Document}

def project (flags : Document) : Document := [("$project", .document flags)]

/-- What a specification says of a field: to be kept, to be left out, or nothing. -/
def flag? (flags : Document) (field : String) : Option Bool :=
  (Fields.get? flags field).map Value.isTruthy

/-- Some field is to be kept, `_id` or another, and no field but `_id` is to be left out. -/
def Includes (flags : Document) : Prop :=
  (∃ entry ∈ flags, entry.2.isTruthy = true) ∧
    ∀ entry ∈ flags, entry.1 ≠ "_id" → entry.2.isTruthy = true

instance : Decidable (Includes flags) :=
  inferInstanceAs (Decidable ((∃ entry ∈ flags, entry.2.isTruthy = true) ∧
    ∀ entry ∈ flags, entry.1 ≠ "_id" → entry.2.isTruthy = true))

/-- A field is asked for: by its own flag, or by none if nothing else is to be kept by name. -/
def Asked (flags : Document) (field : String) : Prop :=
  if Includes flags then
    flag? flags field = some true ∨ field = "_id" ∧ flag? flags field ≠ some false
  else flag? flags field ≠ some false

instance {field : String} : Decidable (Asked flags field) :=
  inferInstanceAs (Decidable (if Includes flags then
    flag? flags field = some true ∨ field = "_id" ∧ flag? flags field ≠ some false
    else flag? flags field ≠ some false))

/-- Nothing but `_id` is flagged, and it is to be kept. -/
def IdAlone (flags : Document) : Prop := ∃ flag, flags = [("_id", flag)] ∧ flag.isTruthy = true

section Flags

variable (distinct : Fields.Distinct flags)
include distinct

theorem flag?_eq_some {field : String} {keep : Bool} :
    flag? flags field = some keep ↔ ∃ flag, (field, flag) ∈ flags ∧ flag.isTruthy = keep := by
  simp [flag?, Fields.get?_eq_some distinct]

theorem Projection.mem_named {keep : Bool} {field : String} :
    field ∈ Projection.named flags keep ↔ field ≠ "_id" ∧ flag? flags field = some keep := by
  rw [flag?_eq_some distinct]
  simp only [Projection.named, Projection.idField, List.mem_map, List.mem_filter]
  constructor
  · rintro ⟨⟨name, flag⟩, ⟨member, flagged⟩, rfl⟩
    obtain ⟨other, same⟩ := Bool.and_eq_true_iff.mp flagged
    exact ⟨of_decide_eq_true other, flag, member, beq_iff_eq.mp same⟩
  · rintro ⟨other, flag, member, same⟩
    exact ⟨(field, flag), ⟨member, by simp [other, same]⟩, rfl⟩

theorem Projection.keepId_foldl_noted (p : Projection) :
    (flags.foldl Projection.noted p).keepId = (flag? flags "_id").getD p.keepId := by
  induction flags generalizing p with
  | nil => rfl
  | cons entry rest ih =>
    obtain ⟨name, flag⟩ := entry
    obtain ⟨fresh, later⟩ := List.nodup_cons.mp distinct
    rw [List.foldl_cons, ih later, flag?, flag?, Fields.get?]
    by_cases own : name = "_id"
    · have absent : Fields.get? rest "_id" = none := Fields.get?_eq_none.mpr (own ▸ fresh)
      simp [own, absent, Projection.noted, Projection.idField]
    · have kept : (p.noted (name, flag)).keepId = p.keepId := by
        cases wanted : flag.isTruthy <;> simp [Projection.noted, Projection.idField, own, wanted]
      rw [kept, if_neg own]

end Flags

namespace Projection

variable {p : Projection} {field : String}

theorem ofValue_eq (read : ofValue (.document flags) = .ok p) : p = flags.foldl noted {} := by
  obtain ⟨q, made, chosen⟩ := bind_ok.mp read
  obtain ⟨_, rfl⟩ := foldlM_add_ok.mp made
  split at chosen
  · cases chosen
  · exact (Except.ok.inj chosen).symm

/-- Whether `_id` is kept never depends on the other fields. -/
theorem keeps_noted (distinct : Fields.Distinct flags) :
    (flags.foldl noted {}).keeps field = true ↔
      if named flags true = [] then flag? flags field ≠ some false
      else flag? flags field = some true ∨ field = "_id" ∧ flag? flags field ≠ some false := by
  obtain ⟨kept, dropped⟩ := foldl_noted flags {}
  have own := keepId_foldl_noted distinct {}
  have inKept := @mem_named flags distinct true field
  have inDropped := @mem_named flags distinct false field
  rw [List.nil_append] at kept dropped
  have empty : (named flags true).isEmpty = true ↔ named flags true = [] := List.isEmpty_iff
  by_cases none : named flags true = []
  · rw [if_pos none, keeps, kept, dropped, own, if_pos (empty.mpr none)]
    by_cases same : field = "_id"
    · subst same
      cases flag? flags "_id" <;> simp_all [idField]
    · simp_all [idField]
  · rw [if_neg none, keeps, kept, dropped, own, if_neg (mt empty.mp none)]
    by_cases same : field = "_id"
    · subst same
      cases flag? flags "_id" <;> simp_all [idField]
    · simp_all [idField]

end Projection

theorem eq_singleton_of_keys (distinct : Fields.Distinct flags) {field : String}
    (only : ∀ entry ∈ flags, entry.1 = field) {flag : Value} (member : (field, flag) ∈ flags) :
    flags = [(field, flag)] := by
  cases flags with
  | nil => cases member
  | cons entry rest =>
    obtain ⟨fresh, _⟩ := List.nodup_cons.mp distinct
    have alone : rest = [] := by
      refine List.eq_nil_iff_forall_not_mem.mpr fun other inside => fresh ?_
      have same := (only other (List.mem_cons_of_mem entry inside)).trans
        (only entry List.mem_cons_self).symm
      exact List.mem_map.mpr ⟨other, inside, same⟩
    subst alone
    rw [List.mem_singleton.mp member]

/-- Of the specifications that ask for fields by name, only one names no other field than `_id`. -/
theorem includes_iff (distinct : Fields.Distinct flags) (agreed : OfOneMind flags) :
    Includes flags ↔ Projection.named flags true ≠ [] ∨ IdAlone flags := by
  constructor
  · rintro ⟨⟨⟨name, flag⟩, member, wanted⟩, others⟩
    by_cases none : Projection.named flags true = []
    · have only : ∀ entry ∈ flags, entry.1 = "_id" := by
        intro entry inside
        by_contra other
        have dropped := Projection.named_eq_nil.mp none entry inside other
        simp [others entry inside other] at dropped
      obtain rfl : name = "_id" := only _ member
      exact .inr ⟨flag, eq_singleton_of_keys distinct only member, wanted⟩
    · exact .inl none
  · rintro (some | ⟨flag, rfl, wanted⟩)
    · obtain ⟨field, kept⟩ := List.exists_mem_of_ne_nil _ some
      obtain ⟨other, given⟩ := (Projection.mem_named distinct).mp kept
      obtain ⟨flag, member, wanted⟩ := (flag?_eq_some distinct).mp given
      refine ⟨⟨_, member, wanted⟩, fun entry inside own => ?_⟩
      exact (agreed entry inside _ member own other).trans wanted
    · simp [Includes, wanted]

theorem keeps_iff_asked (distinct : Fields.Distinct flags) (agreed : OfOneMind flags)
    (proper : ¬ IdAlone flags) (field : String) :
    (flags.foldl Projection.noted {}).keeps field = true ↔ Asked flags field := by
  have mode := includes_iff distinct agreed
  rw [Projection.keeps_noted distinct, Asked]
  by_cases none : Projection.named flags true = []
  · have exclusive : ¬ Includes flags := by
      rw [mode]
      exact not_or.mpr ⟨not_not.mpr none, proper⟩
    rw [if_pos none, if_neg exclusive]
  · rw [if_neg none, if_pos (mode.mpr (.inl none))]

theorem keeps_of_idAlone (alone : IdAlone flags) (field : String) :
    (flags.foldl Projection.noted {}).keeps field = true := by
  obtain ⟨flag, rfl, wanted⟩ := alone
  simp [Projection.noted, Projection.idField, Projection.keeps, wanted]

theorem applyStage_project (each : ∀ d ∈ docs, Fields.Distinct d) :
    applyStage docs (project flags) = .ok rows ↔ WellFormed (project flags) ∧
      rows = docs.map (List.filter fun entry => (flags.foldl Projection.noted {}).keeps entry.1) := by
  have made {rows : List Document} (ran : applyStage docs (project flags) = .ok rows) :
      rows = docs.map (List.filter fun entry => (flags.foldl Projection.noted {}).keeps entry.1) := by
    obtain ⟨p, read, projected⟩ := bind_ok.mp ran
    obtain rfl := Projection.ofValue_eq read
    rw [← Except.ok.inj projected]
    exact List.map_congr_left fun d member => Projection.apply_eq _ (each d member)
  constructor
  · exact fun ran => ⟨wellFormed_of_runStage ran, made ran⟩
  · rintro ⟨formed, rfl⟩
    obtain ⟨rows, ran⟩ := formed.runs (fun _ same => by simp [project, select] at same) docs
    rw [ran, made ran]

theorem ofOneMind_of_wellFormed (formed : WellFormed (project flags)) : OfOneMind flags := by
  generalize same : project flags = stage at formed
  cases formed with
  | project _ agreed =>
    cases same
    exact agreed
  | _ => simp [project, select] at same

/-- What an accepted specification makes of documents. Each keeps the entries that are asked for, as they
are and in their order; but `_id` flagged alone, to be kept, does not leave out the others. -/
theorem projection_exact (distinct : Fields.Distinct flags) (each : ∀ d ∈ docs, Fields.Distinct d) :
    (¬ IdAlone flags → (applyStage docs (project flags) = .ok rows ↔ WellFormed (project flags) ∧
        rows = docs.map (List.filter fun entry => Asked flags entry.1))) ∧
      (IdAlone flags → (applyStage docs (project flags) = .ok rows ↔
        WellFormed (project flags) ∧ rows = docs)) := by
  rw [applyStage_project each]
  refine ⟨fun proper => and_congr_right fun formed => ?_, fun alone => and_congr_right fun _ => ?_⟩
  · have same (entry : String × Value) : (flags.foldl Projection.noted {}).keeps entry.1 =
        decide (Asked flags entry.1) :=
      Bool.eq_iff_iff.mpr
        ((keeps_iff_asked distinct (ofOneMind_of_wellFormed formed) proper entry.1).trans decide_eq_true_iff.symm)
    simp only [same]
  · have whole : docs.map (List.filter fun entry =>
        (flags.foldl Projection.noted {}).keeps entry.1) = docs := by
      refine (List.map_congr_left fun d _ => ?_).trans (List.map_id docs)
      exact List.filter_eq_self.mpr fun entry _ => keeps_of_idAlone alone entry.1
    rw [whole]

def islander : Document := [("_id", .int 1), ("name", .string "Bea"), ("city", .string "Hilo")]

def nameOnly : Document := [("name", .bool true), ("_id", .double .zero)]

def idOnly : Document := [("_id", .int 1)]

theorem projection_exact_islander :
    Fields.Distinct nameOnly ∧ (∀ d ∈ [islander], Fields.Distinct d) ∧ ¬ IdAlone nameOnly ∧
      applyStage [islander] (project nameOnly) = .ok [[("name", .string "Bea")]] ∧
      IdAlone idOnly ∧ applyStage [islander] (project idOnly) = .ok [islander] := by
  have distinct : Fields.Distinct nameOnly := by
    unfold Fields.Distinct
    decide
  have each : ∀ d ∈ [islander], Fields.Distinct d := by
    unfold Fields.Distinct
    decide
  have proper : ¬ IdAlone nameOnly := by simp [IdAlone, nameOnly]
  have formed : WellFormed (project nameOnly) := by
    have ran : runStage [] "$project" (.document nameOnly) = .ok [] := rfl
    exact wellFormed_of_runStage ran
  have kept := ((projection_exact distinct each).1 proper).mpr ⟨formed, rfl⟩
  have alone : IdAlone idOnly := ⟨_, rfl, rfl⟩
  have formed' : WellFormed (project idOnly) := by
    have ran : runStage [] "$project" (.document idOnly) = .ok [] := rfl
    exact wellFormed_of_runStage ran
  have single : Fields.Distinct idOnly := by
    unfold Fields.Distinct
    decide
  exact ⟨distinct, each, proper, kept, alone,
    ((projection_exact single each).2 alone).mpr ⟨formed', rfl⟩⟩

/-- Only `_id` is asked for by name, and yet the other fields are kept. -/
theorem id_alone_keeps_all :
    ¬ ∀ (flags : Document) (docs rows : List Document), Fields.Distinct flags →
      (∀ d ∈ docs, Fields.Distinct d) → applyStage docs (project flags) = .ok rows →
        rows = docs.map (List.filter fun entry => Asked flags entry.1) := by
  intro law
  have same := law idOnly [islander] [islander] (by unfold Fields.Distinct; decide)
    (by unfold Fields.Distinct; decide) rfl
  have fewer : ([islander].map (List.filter fun entry => Asked idOnly entry.1)).map List.length =
      [1] := by
    decide
  rw [← same] at fewer
  cases fewer

end PolicyGate.Pipeline
