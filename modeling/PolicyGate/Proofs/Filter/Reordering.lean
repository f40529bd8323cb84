import PolicyGate.Proofs.Filter.Sequence
import PolicyGate.Proofs.Outcomes

/-!
Filters whose parts stand in another order. A reordered filter may stop at another fault, but where
both orders come to an answer it is the same, and the check accepts the one with the other.
-/
namespace PolicyGate.Filter

open Outcomes

/-- The second list holds a related part for each part of the first, in any order. -/
inductive Rearranged {α : Type} (R : α → α → Prop) : List α → List α → Prop where
  | nil : Rearranged R [] []
  | cons {x y : α} {rest before after : List α} :
      R x y → Rearranged R rest (before ++ after) → Rearranged R (x :: rest) (before ++ y :: after)

namespace Rearranged

variable {α β : Type} {R : α → α → Prop} {xs ys : List α}

/-- Parts may change first and be put in another order then. -/
theorem of_forall₂ {zs : List α} (parts : List.Forall₂ R xs zs) (permuted : zs.Perm ys) :
    Rearranged R xs ys := by
  induction parts generalizing ys with
  | nil =>
    rw [← permuted.nil_eq]
    exact .nil
  | cons related _ ih =>
    obtain ⟨before, after, rfl⟩ := List.append_of_mem (permuted.subset List.mem_cons_self)
    exact .cons related (ih (permuted.trans List.perm_middle).cons_inv)

theorem exists_right (rearranged : Rearranged R xs ys) {x : α} (member : x ∈ xs) :
    ∃ y ∈ ys, R x y := by
  induction rearranged with
  | nil => cases member
  | @cons x' y rest before after related _ ih =>
    rcases List.mem_cons.mp member with rfl | later
    · exact ⟨y, by simp, related⟩
    · obtain ⟨z, inside, related⟩ := ih later
      exact ⟨z, (List.sublist_cons_self y after).append_left before |>.subset inside, related⟩

theorem exists_left (rearranged : Rearranged R xs ys) {y : α} (member : y ∈ ys) :
    ∃ x ∈ xs, R x y := by
  induction rearranged with
  | nil => cases member
  | @cons x y' rest before after related _ ih =>
    rcases List.mem_cons.mp (List.perm_middle.subset member) with rfl | later
    · exact ⟨x, List.mem_cons_self, related⟩
    · obtain ⟨z, inside, related⟩ := ih later
      exact ⟨z, List.mem_cons_of_mem x inside, related⟩

theorem map_perm {f : α → β} (same : ∀ x y, R x y → f x = f y) (rearranged : Rearranged R xs ys) :
    (xs.map f).Perm (ys.map f) := by
  induction rearranged with
  | nil => exact .nil
  | cons related _ ih =>
    rw [List.map_cons, same _ _ related]
    refine (ih.cons _).trans ?_
    simpa only [List.map_append, List.map_cons] using List.perm_middle.symm

end Rearranged

/-- Operators whose parts stand in another order. The order of candidates does not matter, and
neither does that of the operators under `$not`. -/
inductive OperatorReordered : String × Value → String × Value → Prop where
  | same (operator : String × Value) : OperatorReordered operator operator
  | candidates {name : String} {vs ws : List Value} : name = "$in" ∨ name = "$nin" → vs.Perm ws →
      OperatorReordered (name, .array vs) (name, .array ws)
  | negated {inner inner' : Document} : isOperators inner = true →
      Rearranged OperatorReordered inner inner' →
      OperatorReordered ("$not", .document inner) ("$not", .document inner')

mutual

/-- Entries whose parts stand in another order: the clauses of a connective, or the operators of a
condition. Values that a field is compared with stay as they are. -/
inductive EntryReordered : String × Value → String × Value → Prop where
  | same (entry : String × Value) : EntryReordered entry entry
  | connective {key : String} {clauses clauses' : List Value} : IsConnective key →
      Rearranged ClauseReordered clauses clauses' →
      EntryReordered (key, .array clauses) (key, .array clauses')
  | condition {key : String} {operators operators' : Document} : ¬ IsConnective key →
      isOperators operators = true → Rearranged OperatorReordered operators operators' →
      EntryReordered (key, .document operators) (key, .document operators')

inductive ClauseReordered : Value → Value → Prop where
  | same (clause : Value) : ClauseReordered clause clause
  | filter {f g : Document} : Rearranged EntryReordered f g →
      ClauseReordered (.document f) (.document g)

end

/-- Two outcomes that are no faults are the same answer. -/
def Agree (x y : Outcome) : Prop := ∀ a b, x = .ok a → y = .ok b → a = b

theorem Agree.of_eq {x y : Outcome} (same : x = y) : Agree x y := by
  intro a b first second
  exact Except.ok.inj (first.symm.trans (same.trans second))

theorem Agree.map_not {x y : Outcome} (agree : Agree x y) : Agree (x.map not) (y.map not) := by
  intro a b first second
  obtain ⟨a, ranFirst, rfl⟩ := map_ok.mp first
  obtain ⟨b, ranSecond, rfl⟩ := map_ok.mp second
  rw [agree a b ranFirst ranSecond]

theorem Agree.bind {x y : Outcome} (agree : Agree x y) (first second : Except StoreFault Unit) :
    Agree (first.bind fun _ => x) (second.bind fun _ => y) := by
  intro a b ranFirst ranSecond
  obtain ⟨_, _, foundFirst⟩ := bind_ok.mp ranFirst
  obtain ⟨_, _, foundSecond⟩ := bind_ok.mp ranSecond
  exact agree a b foundFirst foundSecond

theorem allOf_true {outcomes : List Outcome} :
    allOf outcomes = .ok true ↔ ∀ x ∈ outcomes, x = .ok true := by
  induction outcomes with
  | nil => simp [allOf]
  | cons x rest ih =>
    rw [List.forall_mem_cons]
    cases x with
    | error fault => simp [allOf]
    | ok b => cases b <;> simp [allOf, ih]

theorem allOf_false {outcomes : List Outcome} (fails : allOf outcomes = .ok false) :
    .ok false ∈ outcomes := by
  induction outcomes with
  | nil => cases fails
  | cons x rest ih =>
    cases x with
    | error fault => cases fails
    | ok b =>
      cases b with
      | false => exact List.mem_cons_self
      | true => exact List.mem_cons_of_mem _ (ih fails)

section Sequences

variable {α : Type} {R : α → α → Prop} {xs ys : List α} {f : α → Outcome}

/-- An answer of yes needs all parts, and one of no rests on a part with that answer: no order can
come to yes where another comes to no. -/
theorem agree_allOf (rearranged : Rearranged R xs ys)
    (each : ∀ x ∈ xs, ∀ y, R x y → Agree (f x) (f y)) :
    Agree (allOf (xs.map f)) (allOf (ys.map f)) := by
  intro a b first second
  cases a with
  | true =>
    cases b with
    | true => rfl
    | false =>
      obtain ⟨y, inside, no⟩ := List.mem_map.mp (allOf_false second)
      obtain ⟨x, member, related⟩ := rearranged.exists_left inside
      have yes := allOf_true.mp first (f x) (List.mem_map_of_mem member)
      exact each x member y related true false yes no
  | false =>
    cases b with
    | false => rfl
    | true =>
      obtain ⟨x, member, no⟩ := List.mem_map.mp (allOf_false first)
      obtain ⟨y, inside, related⟩ := rearranged.exists_right member
      have yes := allOf_true.mp second (f y) (List.mem_map_of_mem inside)
      exact each x member y related false true no yes

theorem agree_anyOf (rearranged : Rearranged R xs ys)
    (each : ∀ x ∈ xs, ∀ y, R x y → Agree (f x) (f y)) :
    Agree (anyOf (xs.map f)) (anyOf (ys.map f)) := by
  rw [anyOf_eq, anyOf_eq, List.map_map, List.map_map]
  exact (agree_allOf rearranged fun x member y related => (each x member y related).map_not).map_not

theorem agree_joined (key : String) (rearranged : Rearranged R xs ys)
    (each : ∀ x ∈ xs, ∀ y, R x y → Agree (f x) (f y)) :
    Agree (joined key (xs.map f)) (joined key (ys.map f)) := by
  unfold joined
  split
  · exact agree_allOf rearranged each
  · split
    · exact agree_anyOf rearranged each
    · exact (agree_anyOf rearranged each).map_not

end Sequences

theorem check_ok {filter : Document} :
    check filter = .ok () ↔ ∀ entry ∈ filter, checkEntry entry.1 entry.2 = .ok () := by
  induction filter with
  | nil => simp [check]
  | cons entry rest ih => rw [check_cons, ih, List.forall_mem_cons]

theorem checkAll_ok {clauses : List Value} :
    checkAll clauses = .ok () ↔ ∀ filter, .document filter ∈ clauses → check filter = .ok () := by
  induction clauses with
  | nil => simp [checkAll]
  | cons clause rest ih =>
    cases clause with
    | document filter => simp [checkAll_cons, ih]
    | _ => simp [checkAll, ih]

theorem checkOperators_ok {options : String} {operators : Document} :
    checkOperators options operators = .ok () ↔
      ∀ operator ∈ operators, checkOperator options operator.1 operator.2 = .ok () := by
  induction operators with
  | nil => simp [checkOperators]
  | cons operator rest ih => rw [checkOperators_cons, ih, List.forall_mem_cons]

theorem checkOperator_not {inner : Document} (named : isOperators inner = true) (options : String) :
    checkOperator options "$not" (.document inner) = checkCondition (.document inner) := by
  rw [checkOperator, if_pos rfl, checkCondition, if_pos named, if_pos named]

theorem checkEntry_plain {key : String} (field : ¬ IsConnective key) (condition : Value) :
    checkEntry key condition =
      if isOperatorName key then .error (.operator key) else checkCondition condition := by
  cases condition <;> simp_all [checkEntry, checkCondition]

/-- The clauses of a connective must all be filters that pass. -/
theorem checkEntry_array {key : String} (connective : IsConnective key) {clauses : List Value} :
    checkEntry key (.array clauses) = .ok () ↔
      ∀ v ∈ clauses, ∃ filter, v = .document filter ∧ check filter = .ok () := by
  constructor
  · intro checked v member
    obtain ⟨shaped, each⟩ := checkEntry_connective connective checked
    have shape := checkClauses_ok.mp shaped v member
    cases v with
    | document filter => exact ⟨filter, rfl, checkAll_ok.mp each filter member⟩
    | _ => cases shape
  · intro each
    have shaped : checkClauses key (.array clauses) = .ok () := by
      refine checkClauses_ok.mpr fun v member => ?_
      obtain ⟨filter, rfl, _⟩ := each v member
      rfl
    have all : checkAll clauses = .ok () := by
      refine checkAll_ok.mpr fun filter member => ?_
      obtain ⟨_, ⟨⟩, checked⟩ := each _ member
      exact checked
    rw [checkEntry, if_pos connective, shaped]
    exact all

namespace OperatorReordered

theorem name_eq {x y : String × Value} (reordered : OperatorReordered x y) : x.1 = y.1 := by
  cases reordered <;> rfl

theorem eq_of_options {x y : String × Value} (reordered : OperatorReordered x y)
    (name : x.1 = "$options") : x = y := by
  cases reordered with
  | same => rfl
  | candidates listed => rcases listed with rfl | rfl <;> simp at name
  | negated => simp at name

end OperatorReordered

section Conditions

variable {operators operators' : Document}
  (reordered : Rearranged OperatorReordered operators operators')
include reordered

theorem keys_reordered : (Fields.keys operators).Perm (Fields.keys operators') :=
  reordered.map_perm fun _ _ => OperatorReordered.name_eq

theorem isOperators_reordered : isOperators operators = isOperators operators' := by
  have byKeys (d : Document) :
      isOperators d = (!(Fields.keys d).isEmpty && (Fields.keys d).all isOperatorName) := by
    rw [isOperators, Fields.keys, List.isEmpty_map, List.all_map]
    rfl
  rw [byKeys, byKeys, (keys_reordered reordered).isEmpty_eq, (keys_reordered reordered).all_eq]

theorem options_reordered (distinct : Fields.Distinct operators) :
    options operators = options operators' := by
  -- The first options count, so they must be the only ones.
  have distinct' : Fields.Distinct operators' := (keys_reordered reordered).nodup_iff.mp distinct
  have same : Fields.get? operators "$options" = Fields.get? operators' "$options" := by
    ext flags
    rw [Fields.get?_eq_some distinct, Fields.get?_eq_some distinct']
    constructor
    · intro member
      obtain ⟨y, inside, related⟩ := reordered.exists_right member
      exact related.eq_of_options rfl ▸ inside
    · intro inside
      obtain ⟨x, member, related⟩ := reordered.exists_left inside
      exact related.eq_of_options related.name_eq ▸ member
  rw [options, same, options]

end Conditions

/-- What another order leaves as it is in an operator, and below in a condition and in an entry: the
answer, where both orders come to one, and that the check is passed. -/
structure OperatorKept (x y : String × Value) : Prop where
  agree : ∀ actual options, Agree (operatorOutcome actual options x) (operatorOutcome actual options y)
  checked : ∀ options, checkOperator options x.1 x.2 = .ok () → checkOperator options y.1 y.2 = .ok ()

structure ConditionKept (x y : Value) : Prop where
  agree : ∀ actual, Agree (fieldHolds actual x) (fieldHolds actual y)
  checked : checkCondition x = .ok () → checkCondition y = .ok ()

structure EntryKept (d : Document) (x y : String × Value) : Prop where
  agree : Agree (entryHolds d x.1 x.2) (entryHolds d y.1 y.2)
  checked : checkEntry x.1 x.2 = .ok () → checkEntry y.1 y.2 = .ok ()

theorem condition_kept {operators operators' : Document} (named : isOperators operators = true)
    (distinct : Fields.Distinct operators)
    (reordered : Rearranged OperatorReordered operators operators')
    (each : ∀ x ∈ operators, ∀ y, OperatorReordered x y → OperatorKept x y) :
    ConditionKept (.document operators) (.document operators') := by
  have named' : isOperators operators' = true := isOperators_reordered reordered ▸ named
  have sameOptions := options_reordered reordered distinct
  constructor
  · intro actual
    rw [fieldHolds_operators named, fieldHolds_operators named', ← sameOptions]
    exact agree_allOf reordered fun x member y related => (each x member y related).agree _ _
  · intro checked
    rw [checkCondition, if_pos named, checkOperators_ok] at checked
    rw [checkCondition, if_pos named', checkOperators_ok]
    intro y inside
    obtain ⟨x, member, related⟩ := reordered.exists_left inside
    exact (each x member y related).checked _ (sameOptions ▸ checked x member)

theorem candidates_kept {name : String} (listed : name = "$in" ∨ name = "$nin") {vs ws : List Value}
    (permuted : vs.Perm ws) : OperatorKept (name, .array vs) (name, .array ws) := by
  constructor
  · intro actual options
    have same : isIn actual name (.array vs) = isIn actual name (.array ws) := by
      rw [isIn, permuted.any_eq, isIn]
    apply Agree.of_eq
    rcases listed with rfl | rfl
    · exact same
    · exact congrArg (Except.map not) same
  · intro options _
    rcases listed with rfl | rfl <;> rfl

theorem OperatorKept.refl (x : String × Value) : OperatorKept x x :=
  ⟨fun _ _ => .of_eq rfl, fun _ checked => checked⟩

theorem operator_kept {x y : String × Value} (distinct : x.2.HasDistinctKeys)
    (reordered : OperatorReordered x y) : OperatorKept x y := by
  obtain ⟨name, operand⟩ := x
  -- Only under `$not` an operand holds operators itself; any other is a literal or a list of candidates.
  induction operand using Value.tree_induction generalizing name y with
  | leaf v leaf =>
    cases reordered with
    | same => exact .refl _
    | candidates => cases leaf
    | negated => cases leaf
  | array items =>
    cases reordered with
    | same => exact .refl _
    | candidates listed permuted => exact candidates_kept listed permuted
  | document inner ih =>
    cases reordered with
    | same => exact .refl _
    | @negated _ inner' named rearranged =>
      have named' : isOperators inner' = true := isOperators_reordered rearranged ▸ named
      obtain ⟨here, below⟩ := Value.hasDistinctKeys_document.mp distinct
      have kept := condition_kept named here rearranged fun x member y related =>
        ih x.1 x.2 member x.1 (below x member) related
      constructor
      · intro actual options
        rw [operatorOutcome_not named, operatorOutcome_not named']
        exact (kept.agree actual).map_not
      · intro options
        rw [checkOperator_not named, checkOperator_not named']
        exact kept.checked

theorem EntryKept.refl (d : Document) (x : String × Value) : EntryKept d x x :=
  ⟨.of_eq rfl, fun checked => checked⟩

theorem field_kept {key : String} (field : ¬ IsConnective key) {condition condition' : Value}
    (kept : ConditionKept condition condition') (d : Document) :
    EntryKept d (key, condition) (key, condition') := by
  constructor
  · dsimp only
    rw [entryHolds_plain field, entryHolds_plain field]
    split
    · exact .of_eq rfl
    · exact kept.agree _
  · dsimp only
    rw [checkEntry_plain field, checkEntry_plain field]
    split
    · exact fun checked => checked
    · exact kept.checked

theorem filter_kept {d f g : Document} (reordered : Rearranged EntryReordered f g)
    (each : ∀ x ∈ f, ∀ y, EntryReordered x y → EntryKept d x y) :
    Agree (holds d f) (holds d g) ∧ (check f = .ok () → check g = .ok ()) := by
  constructor
  · rw [holds_eq, holds_eq]
    exact agree_allOf reordered fun x member y related => (each x member y related).agree
  · intro checked
    rw [check_ok] at checked ⊢
    intro y inside
    obtain ⟨x, member, related⟩ := reordered.exists_left inside
    exact (each x member y related).checked (checked x member)

theorem connective_kept {d : Document} {key : String} (connective : IsConnective key)
    {clauses clauses' : List Value} (reordered : Rearranged ClauseReordered clauses clauses')
    (each : ∀ f, .document f ∈ clauses → ∀ g, Rearranged EntryReordered f g →
      Agree (holds d f) (holds d g) ∧ (check f = .ok () → check g = .ok ())) :
    EntryKept d (key, .array clauses) (key, .array clauses') := by
  constructor
  · have clause (v : Value) (member : v ∈ clauses) (w : Value) (related : ClauseReordered v w) :
        Agree (clauseHolds d v) (clauseHolds d w) := by
      cases related with
      | same => exact .of_eq rfl
      | filter rearranged => exact (each _ member _ rearranged).1
    dsimp only
    rw [entryHolds_connective connective, entryHolds_connective connective]
    exact (agree_joined key reordered clause).bind _ _
  · dsimp only
    rw [checkEntry_array connective, checkEntry_array connective]
    intro checked w inside
    obtain ⟨v, member, related⟩ := reordered.exists_left inside
    obtain ⟨f, rfl, passes⟩ := checked v member
    cases related with
    | same => exact ⟨f, rfl, passes⟩
    | @filter _ g rearranged => exact ⟨g, rfl, (each f member g rearranged).2 passes⟩

theorem entry_kept {d : Document} {x y : String × Value} (distinct : x.2.HasDistinctKeys)
    (reordered : EntryReordered x y) : EntryKept d x y := by
  obtain ⟨key, condition⟩ := x
  induction key, condition using entry_induction generalizing y with
  | field key condition field =>
    cases reordered with
    | same => exact .refl d _
    | connective joins => exact absurd joins field
    | condition _ named rearranged =>
      obtain ⟨here, below⟩ := Value.hasDistinctKeys_document.mp distinct
      exact field_kept field (condition_kept named here rearranged fun x member y related =>
        operator_kept (below x member) related) d
  | misshapen key condition joins other =>
    cases reordered with
    | same => exact .refl d _
    | connective => exact absurd rfl (other _)
    | condition field => exact absurd joins field
  | connective key clauses joins ih =>
    cases reordered with
    | same => exact .refl d _
    | connective _ rearranged =>
      refine connective_kept joins rearranged fun f member g rearranged => ?_
      have inside := Value.hasDistinctKeys_array.mp distinct _ member
      have below := (Value.hasDistinctKeys_document.mp inside).2
      exact filter_kept rearranged fun x inside y related =>
        ih f member x inside (below x inside) related

/-- The order of writing does not matter: where two orders of a filter both come to an answer on a
document, it is the same answer, and a filter that passes the check comes to one in every order. -/
theorem answers_ignore_order {f g : Document} (distinct : (Value.document f).HasDistinctKeys)
    (reordered : Rearranged EntryReordered f g) (d : Document) :
    (∀ a b, holds d f = .ok a → holds d g = .ok b → a = b) ∧
      (check f = .ok () → ∃ b, holds d f = .ok b ∧ holds d g = .ok b) := by
  have below := (Value.hasDistinctKeys_document.mp distinct).2
  obtain ⟨agree, stillChecked⟩ := filter_kept reordered fun x member y related =>
    entry_kept (below x member) related
  refine ⟨agree, fun checked => ?_⟩
  obtain ⟨a, first⟩ := holds_settles d f checked
  obtain ⟨b, second⟩ := holds_settles d g (stillChecked checked)
  exact ⟨b, agree a b first second ▸ first, second⟩

/-- A filter with every kind of part that has an order. -/
def residents : Document :=
  [("$or", .array
      [.document [("city", .document [("$in", .array [.string "oslo", .string "bergen"])])],
        .document [("name", .document [("$not", .document
          [("$regex", .string "^b"), ("$options", .string "m")])]),
          ("age", .document [("$gte", .int 18), ("$lt", .int 65)])]]),
    ("_id", .document [("$exists", .bool true)])]

/-- The same residents, with everything that has an order written the other way round. -/
def residentsReordered : Document :=
  [("_id", .document [("$exists", .bool true)]),
    ("$or", .array
      [.document [("age", .document [("$lt", .int 65), ("$gte", .int 18)]),
          ("name", .document [("$not", .document
            [("$options", .string "m"), ("$regex", .string "^b")])])],
        .document [("city", .document [("$in", .array [.string "bergen", .string "oslo"])])]])]

theorem residents_reordered : Rearranged EntryReordered residents residentsReordered := by
  have swapped {α : Type} {R : α → α → Prop} {x x' y y' : α} (first : R x x') (second : R y y') :
      Rearranged R [x, y] [y', x'] :=
    .of_forall₂ (.cons first (.cons second .nil)) (.swap y' x' [])
  have single {α : Type} {R : α → α → Prop} {x x' : α} (part : R x x') : Rearranged R [x] [x'] :=
    .of_forall₂ (.cons part .nil) (.refl _)
  have city := EntryReordered.condition (show ¬ IsConnective "city" by decide) rfl
    (single (.candidates (.inl rfl) (.swap (.string "bergen") (.string "oslo") [])))
  have name := EntryReordered.condition (show ¬ IsConnective "name" by decide) rfl
    (single (.negated rfl (swapped (.same ("$regex", .string "^b")) (.same ("$options", .string "m")))))
  have age := EntryReordered.condition (show ¬ IsConnective "age" by decide) rfl
    (swapped (.same ("$gte", .int 18)) (.same ("$lt", .int 65)))
  have clauses := swapped (ClauseReordered.filter (single city))
    (ClauseReordered.filter (swapped name age))
  exact swapped (.connective (.inr (.inl rfl)) clauses) (.same _)

theorem answers_ignore_order_residents :
    (Value.document residents).HasDistinctKeys ∧
      Rearranged EntryReordered residents residentsReordered ∧
      check residents = .ok () ∧
      ∃ b, holds [("name", .string "Bea"), ("age", .int 40)] residents = .ok b ∧
        holds [("name", .string "Bea"), ("age", .int 40)] residentsReordered = .ok b := by
  have bool (b : Bool) : (Value.bool b).HasDistinctKeys := Value.hasDistinctKeys_leaf rfl
  have int (n : Int64) : (Value.int n).HasDistinctKeys := Value.hasDistinctKeys_leaf rfl
  have string (s : String) : (Value.string s).HasDistinctKeys := Value.hasDistinctKeys_leaf rfl
  have distinct : (Value.document residents).HasDistinctKeys := by
    simp [residents, Value.hasDistinctKeys_document, Value.hasDistinctKeys_array, Fields.Distinct,
      bool, int, string]
  have checked : check residents = .ok () := by decide +kernel
  exact ⟨distinct, residents_reordered, checked,
    (answers_ignore_order distinct residents_reordered _).2 checked⟩

end PolicyGate.Filter
