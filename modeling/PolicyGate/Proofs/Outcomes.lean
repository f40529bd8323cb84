import Mathlib.Data.List.Forall2

/-!
How computations that may fail come to a result or to a fault.
-/
namespace PolicyGate.Outcomes

variable {ε ε' α β : Type}

def fault? : Except ε α → Option ε
  | .error e => some e
  | .ok _ => none

theorem fault?_eq_some {x : Except ε α} {e : ε} : fault? x = some e ↔ x = .error e := by
  cases x <;> simp [fault?]

theorem toOption_eq_some {x : Except ε α} {a : α} : x.toOption = some a ↔ x = .ok a := by
  cases x <;> simp [Except.toOption]

theorem toOption_isSome {x : Except ε α} : x.toOption.isSome = true ↔ ∃ a, x = .ok a := by
  cases x <;> simp [Except.toOption]

theorem toOption_any {x : Except ε α} {p : α → Bool} :
    x.toOption.any p = true ↔ ∃ a, x = .ok a ∧ p a = true := by
  cases x <;> simp [Except.toOption]

theorem exists_error {x : Except ε α} : (∃ e, x = .error e) ↔ ¬ ∃ a, x = .ok a := by
  cases x <;> simp

theorem bind_ok {x : Except ε α} {next : α → Except ε β} {b : β} :
    x >>= next = .ok b ↔ ∃ a, x = .ok a ∧ next a = .ok b := by
  cases x <;> simp [bind, Except.bind]

theorem bind_error {x : Except ε α} {next : α → Except ε β} {e : ε} :
    x >>= next = .error e ↔ x = .error e ∨ ∃ a, x = .ok a ∧ next a = .error e := by
  cases x <;> simp [bind, Except.bind]

theorem map_ok {x : Except ε α} {f : α → β} {b : β} :
    x.map f = .ok b ↔ ∃ a, x = .ok a ∧ f a = b := by
  cases x <;> simp [Except.map]

theorem map_error {x : Except ε α} {f : α → β} {e : ε} :
    x.map f = .error e ↔ x = .error e := by
  cases x <;> simp [Except.map]

theorem mapError_ok {x : Except ε α} {f : ε → ε'} {a : α} :
    x.mapError f = .ok a ↔ x = .ok a := by
  cases x <;> simp [Except.mapError]

theorem mapError_error {x : Except ε α} {f : ε → ε'} {e : ε'} :
    x.mapError f = .error e ↔ ∃ d, x = .error d ∧ f d = e := by
  cases x <;> simp [Except.mapError]

theorem mapM_ok {f : α → Except ε β} {xs : List α} {ys : List β} :
    xs.mapM f = .ok ys ↔ List.Forall₂ (fun x y => f x = .ok y) xs ys := by
  induction xs generalizing ys with
  | nil =>
    rw [List.mapM_nil, List.forall₂_nil_left_iff]
    exact ⟨fun h => (Except.ok.inj h).symm, fun h => congrArg Except.ok h.symm⟩
  | cons x rest ih =>
    rw [List.mapM_cons, bind_ok]
    constructor
    · rintro ⟨y, hy, h⟩
      obtain ⟨ys', hys, h⟩ := bind_ok.mp h
      cases h
      exact .cons hy (ih.mp hys)
    · intro h
      cases h with
      | cons hy hys => exact ⟨_, hy, bind_ok.mpr ⟨_, ih.mpr hys, rfl⟩⟩

theorem exists_mapM_ok {f : α → Except ε β} {xs : List α} :
    (∃ ys, xs.mapM f = .ok ys) ↔ ∀ x ∈ xs, ∃ y, f x = .ok y := by
  simp only [mapM_ok]
  induction xs with
  | nil => simp
  | cons x rest ih =>
    rw [List.forall_mem_cons, ← ih]
    constructor
    · rintro ⟨_, each⟩
      cases each with
      | cons first later => exact ⟨⟨_, first⟩, _, later⟩
    · rintro ⟨⟨y, first⟩, ys, later⟩
      exact ⟨y :: ys, .cons first later⟩

theorem isSome_return {x : Option α} {f : α → β} : (do return f (← x)).isSome = x.isSome := by
  cases x <;> rfl

theorem isSome_mapM {f : α → Option β} {xs : List α} :
    (xs.mapM f).isSome = xs.all fun x => (f x).isSome := by
  induction xs with
  | nil => rfl
  | cons x rest ih =>
    rw [List.mapM_cons, List.all_cons, ← ih]
    cases f x with
    | none => rfl
    | some y => cases rest.mapM f <;> rfl

theorem exists_of_mem_right {R : α → β → Prop} {xs : List α} {ys : List β}
    (each : List.Forall₂ R xs ys) {y : β} (member : y ∈ ys) : ∃ x ∈ xs, R x y := by
  induction each with
  | nil => cases member
  | @cons x y' rest later related _ ih =>
    rcases List.mem_cons.mp member with rfl | member
    · exact ⟨x, List.mem_cons_self, related⟩
    · obtain ⟨w, found, related⟩ := ih member
      exact ⟨w, List.mem_cons_of_mem x found, related⟩

theorem exists_getElem? {R : α → β → Prop} {xs : List α} {ys : List β}
    (each : List.Forall₂ R xs ys) {i : Nat} {x : α} (here : xs[i]? = some x) :
    ∃ y, ys[i]? = some y ∧ R x y := by
  induction each generalizing i with
  | nil => cases here
  | @cons _ y _ _ related _ ih =>
    cases i with
    | zero =>
      cases here
      exact ⟨y, rfl, related⟩
    | succ i => exact ih here

theorem forall₂_of_sublist {R : α → β → Prop} {kept xs : List α} {ys : List β}
    (sub : kept.Sublist xs) (each : List.Forall₂ R xs ys) :
    ∃ zs, zs.Sublist ys ∧ List.Forall₂ R kept zs := by
  induction sub generalizing ys with
  | slnil => exact ⟨[], List.nil_sublist ys, .nil⟩
  | cons x _ ih =>
    cases each with
    | cons _ later =>
      obtain ⟨zs, sub, related⟩ := ih later
      exact ⟨zs, sub.cons _, related⟩
  | cons_cons x _ ih =>
    cases each with
    | cons first later =>
      obtain ⟨zs, sub, related⟩ := ih later
      exact ⟨_ :: zs, sub.cons_cons _, .cons first related⟩

/-- What is made of a part of a list is a part of what is made of the whole. -/
theorem mapM_sublist {f : α → Except ε β} {part xs : List α} {few ys : List β}
    (sub : part.Sublist xs) (madeFew : part.mapM f = .ok few) (made : xs.mapM f = .ok ys) :
    few.Sublist ys := by
  obtain ⟨zs, within, each⟩ := forall₂_of_sublist sub (mapM_ok.mp made)
  have same : Except.ok few = .ok zs := madeFew.symm.trans (mapM_ok.mpr each)
  cases same
  exact within

theorem mapM_error {f : α → Except ε β} {xs : List α} {e : ε} :
    xs.mapM f = .error e ↔ ∃ before x after,
      xs = before ++ x :: after ∧ (∀ y ∈ before, ∃ b, f y = .ok b) ∧ f x = .error e := by
  induction xs with
  | nil => simp [pure, Except.pure]
  | cons x rest ih =>
    rw [List.mapM_cons, bind_error]
    constructor
    · rintro (now | ⟨y, hy, later⟩)
      · exact ⟨[], x, rest, rfl, by simp, now⟩
      · obtain later | ⟨_, _, h⟩ := bind_error.mp later
        · obtain ⟨before, z, after, rfl, passed, failed⟩ := ih.mp later
          exact ⟨x :: before, z, after, rfl, by simpa using ⟨⟨y, hy⟩, passed⟩, failed⟩
        · cases h
    · rintro ⟨before, z, after, split, passed, failed⟩
      cases before with
      | nil =>
        obtain ⟨rfl, rfl⟩ := List.cons.inj split
        exact .inl failed
      | cons y before =>
        obtain ⟨rfl, rfl⟩ := List.cons.inj split
        obtain ⟨b, hb⟩ := passed x List.mem_cons_self
        have later := ih.mpr
          ⟨before, z, after, rfl, fun w hw => passed w (List.mem_cons_of_mem x hw), failed⟩
        exact .inr ⟨b, hb, bind_error.mpr (.inl later)⟩

/-- What each step of a fold keeps, the fold keeps. -/
theorem foldlM_preserves {P : β → Prop} {f : β → α → Except ε β} {xs : List α} {start last : β}
    (step : ∀ x ∈ xs, ∀ b c, P b → f b x = .ok c → P c) (holds : P start)
    (ran : xs.foldlM f start = .ok last) : P last := by
  induction xs generalizing start with
  | nil =>
    cases ran
    exact holds
  | cons x rest ih =>
    rw [List.foldlM_cons] at ran
    obtain ⟨mid, now, later⟩ := bind_ok.mp ran
    have kept := step x List.mem_cons_self start mid holds now
    exact ih (fun y member => step y (List.mem_cons_of_mem x member)) kept later

end PolicyGate.Outcomes
