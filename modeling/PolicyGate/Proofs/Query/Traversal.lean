import PolicyGate.Query.Sanitize
import PolicyGate.Proofs.Value.Places

/-!
The order of a walk. A walk goes along the places of a tree, checks the levels and keys among them
and replaces the leaves; it stops at the first place that does not let it pass.
-/
namespace PolicyGate.Query

open Value

variable {σ : Type} {isAllowed : String → Bool} {replace : Value → Walk σ Value}

/-- Replaces values one after the other, none of which is refused. -/
inductive Replies (replace : Value → Walk σ Value) : σ → List Value → List Value → σ → Prop where
  | nil (s : σ) : Replies replace s [] [] s
  | cons {s mid final : σ} {v answer : Value} {rest answers : List Value} :
      (replace v).run.run s = (.ok answer, mid) → Replies replace mid rest answers final →
      Replies replace s (v :: rest) (answer :: answers) final

theorem Replies.length_eq {s final : σ} {leaves answers : List Value}
    (replies : Replies replace s leaves answers final) : answers.length = leaves.length := by
  induction replies with
  | nil => rfl
  | cons _ _ ih => rw [List.length_cons, List.length_cons, ih]

/-- A place that does not stop a walk by itself. -/
def Clear (isAllowed : String → Bool) : Place → Prop
  | .node level => level ≤ maxDepth
  | .key name => isAllowed name = true
  | .leaf _ => True

/-- A walk gets past all of the places: `answers` are the replies to the leaves among them. -/
structure Passes (isAllowed : String → Bool) (replace : Value → Walk σ Value) (start : σ)
    (places : List Place) (answers : List Value) (final : σ) : Prop where
  clear : ∀ place ∈ places, Clear isAllowed place
  replies : Replies replace start (leavesAmong places) answers final

/-- A walk that comes to the place in the first state ends there, in the second state. -/
inductive Stops (isAllowed : String → Bool) (replace : Value → Walk σ Value) :
    σ → Place → QueryFault → σ → Prop where
  | tooDeep {s : σ} {level : Nat} :
      maxDepth < level → Stops isAllowed replace s (.node level) (.nestingTooDeep maxDepth) s
  | unsafeKey {s : σ} {name : String} :
      isAllowed name = false → Stops isAllowed replace s (.key name) (.unsafeOperator name) s
  | refused {s final : σ} {v : Value} {fault : QueryFault} :
      (replace v).run.run s = (.error fault, final) →
      Stops isAllowed replace s (.leaf v) fault final

theorem replies_append {s final : σ} {first second answers : List Value} :
    Replies replace s (first ++ second) answers final ↔ ∃ few mid more, answers = few ++ more ∧
      Replies replace s first few mid ∧ Replies replace mid second more final := by
  induction first generalizing s answers with
  | nil =>
    constructor
    · intro replies
      exact ⟨[], s, answers, rfl, .nil s, replies⟩
    · rintro ⟨few, mid, more, rfl, none, replies⟩
      cases none
      exact replies
  | cons v rest ih =>
    constructor
    · intro replies
      cases replies with
      | cons now later =>
        obtain ⟨few, mid, more, rfl, before, after⟩ := ih.mp later
        exact ⟨_ :: few, mid, more, rfl, .cons now before, after⟩
    · rintro ⟨few, mid, more, rfl, before, after⟩
      cases before with
      | cons now later => exact .cons now (ih.mpr ⟨_, mid, more, rfl, later, after⟩)

theorem passes_append {s final : σ} {before after : List Place} {answers : List Value} :
    Passes isAllowed replace s (before ++ after) answers final ↔ ∃ few mid more,
      answers = few ++ more ∧ Passes isAllowed replace s before few mid ∧
        Passes isAllowed replace mid after more final := by
  constructor
  · rintro ⟨clear, replies⟩
    rw [leavesAmong_append, replies_append] at replies
    obtain ⟨few, mid, more, same, first, second⟩ := replies
    obtain ⟨early, late⟩ := List.forall_mem_append.mp clear
    exact ⟨few, mid, more, same, ⟨early, first⟩, late, second⟩
  · rintro ⟨few, mid, more, same, ⟨early, first⟩, late, second⟩
    refine ⟨List.forall_mem_append.mpr ⟨early, late⟩, ?_⟩
    rw [leavesAmong_append, replies_append]
    exact ⟨few, mid, more, same, first, second⟩

theorem passes_nil {s final : σ} {answers : List Value} :
    Passes isAllowed replace s [] answers final ↔ answers = [] ∧ final = s := by
  constructor
  · rintro ⟨_, replies⟩
    cases replies
    exact ⟨rfl, rfl⟩
  · rintro ⟨rfl, rfl⟩
    exact ⟨fun _ member => absurd member List.not_mem_nil, .nil final⟩

theorem passes_check {s final : σ} {place : Place} {answers : List Value}
    (noLeaf : leavesAmong [place] = []) :
    Passes isAllowed replace s [place] answers final ↔
      Clear isAllowed place ∧ answers = [] ∧ final = s := by
  constructor
  · rintro ⟨clear, replies⟩
    rw [noLeaf] at replies
    cases replies
    exact ⟨clear place List.mem_cons_self, rfl, rfl⟩
  · rintro ⟨clear, rfl, rfl⟩
    refine ⟨List.forall_mem_singleton.mpr clear, ?_⟩
    rw [noLeaf]
    exact .nil final

theorem passes_leaf {s final : σ} {v : Value} {answers : List Value} :
    Passes isAllowed replace s [.leaf v] answers final ↔
      ∃ answer, answers = [answer] ∧ (replace v).run.run s = (.ok answer, final) := by
  constructor
  · rintro ⟨_, replies⟩
    cases replies with
    | cons replied none =>
      cases none
      exact ⟨_, rfl, replied⟩
  · rintro ⟨answer, rfl, replied⟩
    exact ⟨List.forall_mem_singleton.mpr trivial, .cons replied (.nil final)⟩

/-- The part of a walk that ends at a place: it passes all that is before it and stops there. -/
def Fails (isAllowed : String → Bool) (replace : Value → Walk σ Value) (start : σ)
    (places : List Place) (fault : QueryFault) (final : σ) : Prop :=
  ∃ before place after answers reached, places = before ++ place :: after ∧
    Passes isAllowed replace start before answers reached ∧
    Stops isAllowed replace reached place fault final

theorem fails_cons {s final : σ} {place : Place} {rest : List Place} {fault : QueryFault} :
    Fails isAllowed replace s (place :: rest) fault final ↔
      Stops isAllowed replace s place fault final ∨ ∃ few mid,
        Passes isAllowed replace s [place] few mid ∧
        Fails isAllowed replace mid rest fault final := by
  constructor
  · rintro ⟨before, stop, after, answers, reached, split, passed, stopped⟩
    cases before with
    | nil =>
      obtain ⟨rfl, rfl⟩ := List.cons.inj split
      obtain ⟨rfl, rfl⟩ := passes_nil.mp passed
      exact .inl stopped
    | cons first before =>
      obtain ⟨rfl, rfl⟩ := List.cons.inj split
      rw [← List.singleton_append, passes_append] at passed
      obtain ⟨few, mid, more, _, now, later⟩ := passed
      exact .inr ⟨few, mid, now, before, stop, after, more, reached, rfl, later, stopped⟩
  · rintro (stopped | ⟨few, mid, now, before, stop, after, more, reached, rfl, later, stopped⟩)
    · exact ⟨[], place, rest, [], s, rfl, passes_nil.mpr ⟨rfl, rfl⟩, stopped⟩
    · have passed : Passes isAllowed replace s ([place] ++ before) (few ++ more) reached :=
        passes_append.mpr ⟨few, mid, more, rfl, now, later⟩
      exact ⟨place :: before, stop, after, few ++ more, reached, rfl, passed, stopped⟩

def check (condition : Prop) [Decidable condition] (fault : QueryFault) : Walk σ (List Value) :=
  if condition then pure [] else throw fault

/-- What a walk does at one place. -/
def pass (isAllowed : String → Bool) (replace : Value → Walk σ Value) :
    Place → Walk σ (List Value)
  | .node level => check (level ≤ maxDepth) (.nestingTooDeep maxDepth)
  | .key name => check (isAllowed name = true) (.unsafeOperator name)
  | .leaf v => do return [← replace v]

/-- Goes along a list of places and collects the replies. -/
def visit (isAllowed : String → Bool) (replace : Value → Walk σ Value) :
    List Place → Walk σ (List Value)
  | [] => pure []
  | place :: rest => do return (← pass isAllowed replace place) ++ (← visit isAllowed replace rest)

theorem throw_bind (fault : QueryFault) (next : α → Walk σ β) :
    (throw fault : Walk σ α) >>= next = throw fault := rfl

theorem run_bind_ok {m : Walk σ α} {next : α → Walk σ β} {s final : σ} {b : β} :
    (m >>= next).run.run s = (.ok b, final) ↔
      ∃ a mid, m.run.run s = (.ok a, mid) ∧ (next a).run.run mid = (.ok b, final) := by
  change ExceptT.bindCont next (m.run.run s).1 (m.run.run s).2 = _ ↔ _
  rcases m.run.run s with ⟨fault | a, mid⟩
  · constructor
    · intro ran
      cases ran
    · rintro ⟨_, _, first, _⟩
      cases first
  · constructor
    · intro ran
      exact ⟨a, mid, rfl, ran⟩
    · rintro ⟨_, _, first, second⟩
      cases first
      exact second

theorem run_bind_error {m : Walk σ α} {next : α → Walk σ β} {s final : σ} {fault : QueryFault} :
    (m >>= next).run.run s = (.error fault, final) ↔ m.run.run s = (.error fault, final) ∨
      ∃ a mid, m.run.run s = (.ok a, mid) ∧ (next a).run.run mid = (.error fault, final) := by
  change ExceptT.bindCont next (m.run.run s).1 (m.run.run s).2 = _ ↔ _
  rcases m.run.run s with ⟨other | a, mid⟩
  · constructor
    · intro ran
      cases ran
      exact .inl rfl
    · rintro (first | ⟨_, _, first, _⟩) <;> cases first
      rfl
  · constructor
    · intro ran
      exact .inr ⟨a, mid, rfl, ran⟩
    · rintro (first | ⟨_, _, first, second⟩) <;> cases first
      exact second

theorem run_pure_ok {s final : σ} {a b : α} :
    (pure a : Walk σ α).run.run s = (.ok b, final) ↔ b = a ∧ final = s := by
  constructor
  · intro ran
    cases ran
    exact ⟨rfl, rfl⟩
  · rintro ⟨rfl, rfl⟩
    rfl

theorem run_pure_error {s final : σ} {a : α} {fault : QueryFault} :
    ¬ (pure a : Walk σ α).run.run s = (.error fault, final) := by
  intro ran
  cases ran

theorem run_throw {s final : σ} {fault : QueryFault} {result : Except QueryFault α} :
    (throw fault : Walk σ α).run.run s = (result, final) ↔ result = .error fault ∧ final = s := by
  constructor
  · intro ran
    cases ran
    exact ⟨rfl, rfl⟩
  · rintro ⟨rfl, rfl⟩
    rfl

theorem check_ok {condition : Prop} [Decidable condition] {fault : QueryFault} {s final : σ}
    {answers : List Value} :
    (check condition fault).run.run s = (.ok answers, final) ↔
      condition ∧ answers = [] ∧ final = s := by
  unfold check
  by_cases holds : condition
  · rw [if_pos holds, run_pure_ok, and_iff_right holds]
  · rw [if_neg holds, run_throw]
    simp [holds]

theorem check_error {condition : Prop} [Decidable condition] {fault other : QueryFault}
    {s final : σ} :
    (check condition fault).run.run s = (.error other, final) ↔
      ¬ condition ∧ other = fault ∧ final = s := by
  unfold check
  by_cases holds : condition
  · rw [if_pos holds]
    constructor
    · intro ran
      exact absurd ran run_pure_error
    · rintro ⟨fails, _⟩
      exact absurd holds fails
  · rw [if_neg holds, run_throw, Except.error.injEq, and_iff_right holds]

theorem pass_ok {s final : σ} {place : Place} {answers : List Value} :
    (pass isAllowed replace place).run.run s = (.ok answers, final) ↔
      Passes isAllowed replace s [place] answers final := by
  cases place with
  | node level =>
    rw [pass, check_ok, passes_check rfl]
    rfl
  | key name =>
    rw [pass, check_ok, passes_check rfl]
    rfl
  | leaf v =>
    rw [pass, run_bind_ok, passes_leaf]
    constructor
    · rintro ⟨answer, mid, replied, made⟩
      obtain ⟨rfl, rfl⟩ := run_pure_ok.mp made
      exact ⟨answer, rfl, replied⟩
    · rintro ⟨answer, rfl, replied⟩
      exact ⟨answer, final, replied, rfl⟩

theorem pass_error {s final : σ} {place : Place} {fault : QueryFault} :
    (pass isAllowed replace place).run.run s = (.error fault, final) ↔
      Stops isAllowed replace s place fault final := by
  cases place with
  | node level =>
    rw [pass, check_error]
    constructor
    · rintro ⟨deep, rfl, rfl⟩
      exact .tooDeep (Nat.lt_of_not_le deep)
    · intro stopped
      cases stopped with
      | tooDeep deep => exact ⟨Nat.not_le_of_lt deep, rfl, rfl⟩
  | key name =>
    rw [pass, check_error]
    constructor
    · rintro ⟨forbidden, rfl, rfl⟩
      exact .unsafeKey (eq_false_of_ne_true forbidden)
    · intro stopped
      cases stopped with
      | unsafeKey forbidden => exact ⟨ne_true_of_eq_false forbidden, rfl, rfl⟩
  | leaf v =>
    rw [pass, run_bind_error]
    constructor
    · rintro (refused | ⟨_, _, _, made⟩)
      · exact .refused refused
      · exact absurd made run_pure_error
    · intro stopped
      cases stopped with
      | refused refused => exact .inl refused

theorem visit_ok {s final : σ} {places : List Place} {answers : List Value} :
    (visit isAllowed replace places).run.run s = (.ok answers, final) ↔
      Passes isAllowed replace s places answers final := by
  induction places generalizing s answers with
  | nil => rw [visit, run_pure_ok, passes_nil]
  | cons place rest ih =>
    rw [visit, run_bind_ok, ← List.singleton_append, passes_append]
    constructor
    · rintro ⟨few, mid, now, later⟩
      obtain ⟨more, _, later, made⟩ := run_bind_ok.mp later
      obtain ⟨rfl, rfl⟩ := run_pure_ok.mp made
      exact ⟨few, mid, more, rfl, pass_ok.mp now, ih.mp later⟩
    · rintro ⟨few, mid, more, rfl, now, later⟩
      exact ⟨few, mid, pass_ok.mpr now, run_bind_ok.mpr ⟨more, final, ih.mpr later, rfl⟩⟩

theorem visit_error {s final : σ} {places : List Place} {fault : QueryFault} :
    (visit isAllowed replace places).run.run s = (.error fault, final) ↔
      Fails isAllowed replace s places fault final := by
  induction places generalizing s with
  | nil =>
    constructor
    · intro ran
      exact absurd ran run_pure_error
    · rintro ⟨before, _, _, _, _, split, _⟩
      cases before <;> cases split
  | cons place rest ih =>
    rw [visit, run_bind_error, fails_cons, pass_error]
    refine or_congr_right ?_
    constructor
    · rintro ⟨few, mid, now, later⟩
      obtain later | ⟨_, _, _, made⟩ := run_bind_error.mp later
      · exact ⟨few, mid, pass_ok.mp now, ih.mp later⟩
      · exact absurd made run_pure_error
    · rintro ⟨few, mid, now, later⟩
      exact ⟨few, mid, pass_ok.mpr now, run_bind_error.mpr (.inl (ih.mpr later))⟩

theorem visit_append (before after : List Place) :
    visit isAllowed replace (before ++ after) = do
      let few ← visit isAllowed replace before
      let more ← visit isAllowed replace after
      return few ++ more := by
  induction before with
  | nil => simp only [List.nil_append, visit, pure_bind, bind_pure]
  | cons place rest ih =>
    simp only [List.cons_append, visit, ih, bind_assoc, pure_bind, List.append_assoc]

theorem visit_bind_congr {places : List Place} {next other : List Value → Walk σ β}
    (same : ∀ answers, answers.length = (leavesAmong places).length → next answers = other answers) :
    visit isAllowed replace places >>= next = visit isAllowed replace places >>= other := by
  refine ExceptT.ext (StateT.ext fun s => ?_)
  change ExceptT.bindCont next ((visit isAllowed replace places).run.run s).1
      ((visit isAllowed replace places).run.run s).2 =
    ExceptT.bindCont other ((visit isAllowed replace places).run.run s).1
      ((visit isAllowed replace places).run.run s).2
  rcases ran : (visit isAllowed replace places).run.run s with ⟨fault | answers, mid⟩
  · rfl
  · -- there are as many replies as leaves, so only such lists are handed on
    have passed := visit_ok.mp ran
    have agree := same answers passed.replies.length_eq
    change (next answers).run.run mid = (other answers).run.run mid
    rw [agree]

theorem walk_leaf {v : Value} (leaf : v.isLeaf = true) (level : Nat) :
    walk isAllowed replace level v =
      if maxDepth < level then throw (.nestingTooDeep maxDepth) else replace v := by
  cases v <;> first | rfl | cases leaf

theorem visit_node (level : Nat) (rest : List Place) :
    visit isAllowed replace (.node level :: rest) =
      if maxDepth < level then throw (.nestingTooDeep maxDepth)
      else visit isAllowed replace rest := by
  rw [visit, pass, check]
  by_cases fits : level ≤ maxDepth
  · rw [if_pos fits, if_neg (Nat.not_lt_of_le fits)]
    simp only [pure_bind, List.nil_append, bind_pure]
  · rw [if_neg fits, if_pos (Nat.lt_of_not_le fits), throw_bind]

theorem visit_key (key : String) (rest : List Place) :
    visit isAllowed replace (.key key :: rest) =
      if isAllowed key then visit isAllowed replace rest else throw (.unsafeOperator key) := by
  rw [visit, pass, check]
  split
  · simp only [pure_bind, List.nil_append, bind_pure]
  · rfl

theorem walkItems_eq_visit {items : List Value} (level : Nat)
    (each : ∀ v ∈ items, walk isAllowed replace level v = do
      return v.refill (← visit isAllowed replace (v.places level))) :
    walkItems isAllowed replace level items = do
      return refillItems (← visit isAllowed replace (itemPlaces level items)) items := by
  induction items with
  | nil => rfl
  | cons v rest ih =>
    have later := ih fun w member => each w (List.mem_cons_of_mem v member)
    rw [walkItems, itemPlaces, visit_append, each v List.mem_cons_self, later]
    simp only [bind_assoc, pure_bind]
    refine visit_bind_congr fun few enough => ?_
    rw [leavesAmong_places] at enough
    simp only [refillItems_cons enough]

theorem walkEntries_eq_visit {entries : Document} (made : Document) (level : Nat)
    (distinct : Fields.Distinct (made ++ entries))
    (each : ∀ key v, (key, v) ∈ entries → walk isAllowed replace level v = do
      return v.refill (← visit isAllowed replace (v.places level))) :
    walkEntries isAllowed replace level made entries = do
      let answers ← visit isAllowed replace (entryPlaces level entries)
      return made ++ refillEntries answers entries := by
  -- `made` are the entries before: no key that is still to come is among theirs
  induction entries generalizing made with
  | nil =>
    simp only [walkEntries, entryPlaces, visit, refillEntries, pure_bind, List.append_nil]
  | cons entry rest ih =>
    obtain ⟨key, v⟩ := entry
    have others (w : Value) : Fields.Distinct (made ++ [(key, w)] ++ rest) := by
      simpa [Fields.Distinct, Fields.keys] using distinct
    have later (w : Value) := ih _ (others w) fun name u member =>
      each name u (List.mem_cons_of_mem _ member)
    rw [walkEntries, entryPlaces, List.cons_append, visit_key, visit_append,
      each key v List.mem_cons_self]
    split
    · simp only [bind_assoc, pure_bind, Fields.insert_of_not_mem distinct.not_mem_keys, later]
      refine visit_bind_congr fun few enough => ?_
      rw [leavesAmong_places] at enough
      simp only [refillEntries_cons enough, List.append_assoc, List.singleton_append]
    · rfl

/-- A walk goes along the places of a tree and puts the replies in place of the leaves. -/
theorem walk_eq_visit {v : Value} (distinct : v.HasDistinctKeys) (level : Nat) :
    walk isAllowed replace level v = do
      return v.refill (← visit isAllowed replace (v.places level)) := by
  induction v using tree_induction generalizing level with
  | leaf v leaf =>
    rw [walk_leaf leaf, places_leaf leaf, visit_node]
    split
    · rfl
    · simp only [visit, pass, bind_assoc, pure_bind, List.append_nil, refill_leaf leaf, bind_pure]
  | array items ih =>
    have each := hasDistinctKeys_array.mp distinct
    have inside := walkItems_eq_visit (level + 1) fun v member =>
      ih v member (each v member) (level + 1)
    rw [walk, inside, places, visit_node]
    split
    · rfl
    · simp only [bind_assoc, pure_bind, refill]
  | document entries ih =>
    obtain ⟨here, each⟩ := hasDistinctKeys_document.mp distinct
    have inside := walkEntries_eq_visit [] (level + 1) here fun key v member =>
      ih key v member (each _ member) (level + 1)
    rw [walk, inside, places, visit_node]
    split
    · rfl
    · simp only [bind_assoc, pure_bind, refill, List.nil_append]

/-- A walk passes the leaves of a tree to `replace` from left to right, each of them once. It comes
to a result exactly if it gets past all places, and the result is the tree with the replies in place
of the leaves. It fails exactly if it stops at some place, with the fault of that place, after it
has got past the places before it and no others. -/
theorem leaves_replaced_in_order (replace : Value → Walk σ Value) {v : Value}
    (distinct : v.HasDistinctKeys) (start : σ) :
    (∀ w final, (walk isAllowedKey replace 0 v).run.run start = (.ok w, final) ↔
      ∃ answers, Passes isAllowedKey replace start (v.places 0) answers final ∧
        w = v.refill answers) ∧
    ∀ fault final, (walk isAllowedKey replace 0 v).run.run start = (.error fault, final) ↔
      Fails isAllowedKey replace start (v.places 0) fault final := by
  rw [walk_eq_visit distinct]
  constructor
  · intro w final
    rw [run_bind_ok]
    constructor
    · rintro ⟨answers, mid, visited, made⟩
      obtain ⟨rfl, rfl⟩ := run_pure_ok.mp made
      exact ⟨answers, visit_ok.mp visited, rfl⟩
    · rintro ⟨answers, passed, rfl⟩
      exact ⟨answers, final, visit_ok.mpr passed, rfl⟩
  · intro fault final
    rw [run_bind_error, visit_error]
    constructor
    · rintro (failed | ⟨_, _, _, made⟩)
      · exact failed
      · exact absurd made run_pure_error
    · exact .inl

/-- Numbers the leaves, keeps them as its state, and refuses the one with the number `last`. -/
def numbering (last : Nat) (leaf : Value) : Walk (List Value) Value := do
  let seen ← get
  set (seen ++ [leaf])
  if seen.length = last then throw (.malformedQuery "last leaf")
  else return .int (Int64.ofNat seen.length)

def threeLeaves : Value :=
  .document [("a", .array [.null, .bool true]), ("b", .bool false)]

theorem leaves_replaced_in_order_numbering :
    threeLeaves.HasDistinctKeys ∧
    (∃ answers, Passes isAllowedKey (numbering 3) [] (threeLeaves.places 0) answers
        [.null, .bool true, .bool false] ∧
      .document [("a", .array [.int 0, .int 1]), ("b", .int 2)] = threeLeaves.refill answers) ∧
    Fails isAllowedKey (numbering 1) [] (threeLeaves.places 0) (.malformedQuery "last leaf")
      [.null, .bool true] := by
  have distinct : threeLeaves.HasDistinctKeys := by
    have null : Value.null.HasDistinctKeys := hasDistinctKeys_leaf rfl
    have bool (b : Bool) : (Value.bool b).HasDistinctKeys := hasDistinctKeys_leaf rfl
    simp [threeLeaves, hasDistinctKeys_array, hasDistinctKeys_document, null, bool,
      Fields.Distinct]
  refine ⟨distinct, ?_, ?_⟩
  · exact ((leaves_replaced_in_order (numbering 3) distinct []).1 _ _).mp rfl
  · exact ((leaves_replaced_in_order (numbering 1) distinct []).2 _ _).mp rfl

end PolicyGate.Query
