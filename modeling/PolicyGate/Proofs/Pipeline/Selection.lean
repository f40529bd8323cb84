import PolicyGate.Proofs.Filter.Evaluation
import PolicyGate.Query.Compile

/-!
Stages that select rows. The stage of some grants with checked predicates never fails, and keeps the
rows that one of the predicates accepts, in their order.
-/
namespace PolicyGate

namespace Pipeline

theorem matching_ok {filter : Document} {docs : List Document}
    (settles : ∀ d ∈ docs, Filter.Settles (Filter.holds d filter)) :
    matching filter docs = .ok (docs.filter (Filter.accepts filter)) := by
  induction docs with
  | nil => rfl
  | cons d rest ih =>
    have first := (settles d List.mem_cons_self).holds_eq
    have later := ih fun other member => settles other (List.mem_cons_of_mem d member)
    rw [matching, first, List.filter_cons]
    cases Filter.accepts filter d with
    | false => exact later
    | true =>
      rw [later]
      rfl

/-- What a filter may select from documents: those that it accepts, in their order, or the fault of the
first document that it fails on. -/
inductive Selects (filter : Document) (docs : List Document) :
    Except StoreFault (List Document) → Prop where
  | rows (settles : ∀ d ∈ docs, Filter.Settles (Filter.holds d filter)) :
      Selects filter docs (.ok (docs.filter (Filter.accepts filter)))
  | fault {before after : List Document} {d : Document} {fault : StoreFault}
      (place : docs = before ++ d :: after)
      (settles : ∀ e ∈ before, Filter.Settles (Filter.holds e filter))
      (fails : Filter.holds d filter = .error fault) : Selects filter docs (.error fault)

theorem selects_matching (filter : Document) (docs : List Document) :
    Selects filter docs (matching filter docs) := by
  induction docs with
  | nil => exact .rows nofun
  | cons d rest ih =>
    cases verdict : Filter.holds d filter with
    | error fault =>
      have place : d :: rest = [] ++ d :: rest := rfl
      rw [matching, verdict]
      exact .fault place nofun verdict
    | ok b =>
      have settled : Filter.Settles (Filter.holds d filter) := ⟨b, verdict⟩
      generalize same : matching filter rest = outcome at ih
      cases ih with
      | rows settles =>
        have all : ∀ e ∈ d :: rest, Filter.Settles (Filter.holds e filter) :=
          List.forall_mem_cons.mpr ⟨settled, settles⟩
        rw [matching_ok all]
        exact .rows all
      | @fault before after other _ place settles fails =>
        have whole : d :: (before ++ other :: after) = (d :: before) ++ other :: after := rfl
        have first : ∀ e ∈ d :: before, Filter.Settles (Filter.holds e filter) :=
          List.forall_mem_cons.mpr ⟨settled, settles⟩
        rw [matching, verdict, same, place]
        cases b <;> exact .fault whole first fails

theorem run_cons (docs : List Document) (stage : Document) (rest : List Document) :
    run docs (stage :: rest) = applyStage docs stage >>= fun kept => run kept rest :=
  List.foldlM_cons

end Pipeline

namespace Query

/-- The documents that the predicate of at least one grant accepts. -/
def visible (grants : List Grant) (docs : List Document) : List Document :=
  docs.filter fun d => grants.any fun g => Filter.accepts g.predicate d

def anyPredicate (predicates : List Document) : Document :=
  [("$or", .array (predicates.map .document))]

theorem securityStage_eq (grants : List Grant) :
    securityStage grants = [("$match", .document (anyPredicate (grants.map Grant.predicate)))] := by
  rw [securityStage, anyPredicate, List.map_map]
  rfl

theorem holds_anyPredicate {predicates : List Document}
    (checked : ∀ p ∈ predicates, Filter.check p = .ok ()) (d : Document) :
    Filter.holds d (anyPredicate predicates) =
      .ok (predicates.any fun p => Filter.accepts p d) := by
  have shaped : Filter.checkClauses "$or" (.array (predicates.map .document)) = .ok () := by
    simp [Filter.checkClauses, Value.document?]
  have entry : Filter.entryHolds d "$or" (.array (predicates.map .document)) =
      .ok (predicates.any fun p => Filter.accepts p d) := by
    rw [Filter.entryHolds, shaped]
    exact Filter.anyHolds_documents checked d
  rw [anyPredicate, Filter.holds, entry]
  cases predicates.any fun p => Filter.accepts p d <;> rfl

theorem securityStage_ok {grants : List Grant}
    (checked : ∀ g ∈ grants, Filter.check g.predicate = .ok ()) (docs : List Document) :
    Pipeline.applyStage docs (securityStage grants) = .ok (visible grants docs) := by
  have answers : ∀ d, Filter.holds d (anyPredicate (grants.map Grant.predicate)) =
      .ok (grants.any fun g => Filter.accepts g.predicate d) := by
    intro d
    rw [holds_anyPredicate (by simpa using checked) d, List.any_map]
    rfl
  rw [securityStage_eq]
  change Pipeline.matching _ docs = _
  rw [Pipeline.matching_ok fun d _ => ⟨_, answers d⟩, visible]
  congr 1
  apply List.filter_congr
  intro d _
  rw [Filter.accepts, answers d]

end Query
end PolicyGate
