import PolicyGate.Proofs.Double
import PolicyGate.Proofs.Value.Nodes
import PolicyGate.Value.Order

/-!
Equality of values is symmetric and transitive, and where no NaN is, every value equals itself.
-/
namespace PolicyGate.Value

/-- No NaN stands in the value. -/
def NaNFree (v : Value) : Prop :=
  ∀ k w, v.HasNode k w → ∀ x, w = .double x → x.isNaN = false

theorem naNFree_leaf {v : Value} (leaf : v.isLeaf = true) (free : ∀ x, v = .double x → x.isNaN = false) :
    v.NaNFree := by
  intro k w node x same
  obtain ⟨_, rfl⟩ := (hasNode_leaf leaf).mp node
  exact free x same

theorem naNFree_double {x : Double} (free : (Value.double x).NaNFree) : x.isNaN = false :=
  free 0 _ (.root _) x rfl

theorem naNFree_array {items : List Value} :
    (Value.array items).NaNFree ↔ ∀ v ∈ items, v.NaNFree := by
  rw [NaNFree, forall_hasNode_array]
  simp [NaNFree]

theorem naNFree_document {entries : Document} :
    (Value.document entries).NaNFree ↔ ∀ key v, (key, v) ∈ entries → v.NaNFree := by
  rw [NaNFree, forall_hasNode_document]
  simp [NaNFree]

theorem same_double {x : Double} {w : Value} :
    (Value.double x).same w = true ↔ ∃ y, w = .double y ∧ x.equal y = true := by
  constructor
  · intro equal
    cases w with
    | double y => exact ⟨y, rfl, equal⟩
    | _ => cases equal
  · rintro ⟨y, rfl, equal⟩
    exact equal

theorem same_leaf {v w : Value} (leaf : v.isLeaf = true) (noDouble : ∀ x, v ≠ .double x) :
    v.same w = true ↔ w = v := by
  constructor
  · intro equal
    cases v with
    | double x => exact absurd rfl (noDouble x)
    | array items => cases leaf
    | document entries => cases leaf
    | null => cases w <;> first | rfl | cases equal
    | _ => cases w <;> first | cases equal | exact congrArg _ (beq_iff_eq.mp equal).symm
  · rintro rfl
    cases w with
    | double x => exact absurd rfl (noDouble x)
    | array items => cases leaf
    | document entries => cases leaf
    | null => rfl
    | _ => exact beq_self_eq_true _

theorem same_array {items : List Value} {w : Value} :
    (Value.array items).same w = true ↔ ∃ others, w = .array others ∧ sameItems items others = true := by
  constructor
  · intro equal
    cases w with
    | array others => exact ⟨others, rfl, equal⟩
    | _ => cases equal
  · rintro ⟨others, rfl, equal⟩
    exact equal

theorem same_document {entries : Document} {w : Value} :
    (Value.document entries).same w = true ↔
      ∃ others, w = .document others ∧ sameEntries entries others = true := by
  constructor
  · intro equal
    cases w with
    | document others => exact ⟨others, rfl, equal⟩
    | _ => cases equal
  · rintro ⟨others, rfl, equal⟩
    exact equal

theorem leaf_cases {v : Value} (leaf : v.isLeaf = true) :
    (∃ x, v = .double x) ∨ ∀ x, v ≠ .double x := by
  cases v with
  | double x => exact .inl ⟨x, rfl⟩
  | _ => exact .inr fun _ => nofun

theorem sameItems_cons {v : Value} {rest others : List Value} :
    sameItems (v :: rest) others = true ↔
      ∃ w more, others = w :: more ∧ v.same w = true ∧ sameItems rest more = true := by
  constructor
  · intro equal
    cases others with
    | nil => cases equal
    | cons w more => exact ⟨w, more, rfl, Bool.and_eq_true_iff.mp equal⟩
  · rintro ⟨w, more, rfl, equal⟩
    exact Bool.and_eq_true_iff.mpr equal

theorem sameEntries_cons {key : String} {v : Value} {rest others : Document} :
    sameEntries ((key, v) :: rest) others = true ↔
      ∃ w more, others = (key, w) :: more ∧ v.same w = true ∧ sameEntries rest more = true := by
  constructor
  · intro equal
    cases others with
    | nil => cases equal
    | cons other more =>
      obtain ⟨name, w⟩ := other
      obtain ⟨first, later⟩ := Bool.and_eq_true_iff.mp equal
      obtain ⟨name, here⟩ := Bool.and_eq_true_iff.mp first
      obtain rfl := beq_iff_eq.mp name
      exact ⟨w, more, rfl, here, later⟩
  · rintro ⟨w, more, rfl, here, later⟩
    have first := Bool.and_eq_true_iff.mpr ⟨beq_self_eq_true key, here⟩
    exact Bool.and_eq_true_iff.mpr ⟨first, later⟩

theorem sameItems_refl {items : List Value} (each : ∀ v ∈ items, v.same v = true) :
    sameItems items items = true := by
  induction items with
  | nil => rfl
  | cons v rest ih =>
    exact sameItems_cons.mpr ⟨v, rest, rfl, each v List.mem_cons_self,
      ih fun w member => each w (List.mem_cons_of_mem v member)⟩

theorem sameEntries_refl {entries : Document}
    (each : ∀ key v, (key, v) ∈ entries → v.same v = true) :
    sameEntries entries entries = true := by
  induction entries with
  | nil => rfl
  | cons entry rest ih =>
    obtain ⟨key, v⟩ := entry
    exact sameEntries_cons.mpr ⟨v, rest, rfl, each key v List.mem_cons_self,
      ih fun other w member => each other w (List.mem_cons_of_mem _ member)⟩

/-- A value without NaN equals itself. -/
theorem same_refl {v : Value} (free : v.NaNFree) : v.same v = true := by
  induction v using tree_induction with
  | leaf v leaf =>
    rcases leaf_cases leaf with ⟨x, rfl⟩ | noDouble
    · have number := naNFree_double free
      exact Double.equal_iff.mpr ⟨number, number, rfl⟩
    · exact (same_leaf leaf noDouble).mpr rfl
  | array items ih =>
    have inside := naNFree_array.mp free
    exact sameItems_refl fun v member => ih v member (inside v member)
  | document entries ih =>
    have inside := naNFree_document.mp free
    exact sameEntries_refl fun key v member => ih key v member (inside key v member)

theorem sameItems_symm {items others : List Value}
    (each : ∀ v ∈ items, ∀ w, v.same w = true → w.same v = true)
    (equal : sameItems items others = true) : sameItems others items = true := by
  induction items generalizing others with
  | nil => cases others <;> first | rfl | cases equal
  | cons v rest ih =>
    obtain ⟨w, more, rfl, first, later⟩ := sameItems_cons.mp equal
    exact sameItems_cons.mpr ⟨v, rest, rfl, each v List.mem_cons_self w first,
      ih (fun u member => each u (List.mem_cons_of_mem v member)) later⟩

theorem sameEntries_symm {entries others : Document}
    (each : ∀ key v, (key, v) ∈ entries → ∀ w, v.same w = true → w.same v = true)
    (equal : sameEntries entries others = true) : sameEntries others entries = true := by
  induction entries generalizing others with
  | nil => cases others <;> first | rfl | cases equal
  | cons entry rest ih =>
    obtain ⟨key, v⟩ := entry
    obtain ⟨w, more, rfl, first, later⟩ := sameEntries_cons.mp equal
    exact sameEntries_cons.mpr ⟨v, rest, rfl, each key v List.mem_cons_self w first,
      ih (fun other u member => each other u (List.mem_cons_of_mem _ member)) later⟩

theorem same_symm {v w : Value} (equal : v.same w = true) : w.same v = true := by
  induction v using tree_induction generalizing w with
  | leaf v leaf =>
    rcases leaf_cases leaf with ⟨x, rfl⟩ | noDouble
    · obtain ⟨y, rfl, numbers⟩ := same_double.mp equal
      obtain ⟨hx, hy, units⟩ := Double.equal_iff.mp numbers
      exact Double.equal_iff.mpr ⟨hy, hx, units.symm⟩
    · obtain rfl := (same_leaf leaf noDouble).mp equal
      exact equal
  | array items ih =>
    obtain ⟨others, rfl, equal⟩ := same_array.mp equal
    exact sameItems_symm (fun v member _ => ih v member) equal
  | document entries ih =>
    obtain ⟨others, rfl, equal⟩ := same_document.mp equal
    exact sameEntries_symm (fun key v member _ => ih key v member) equal

theorem sameItems_trans {items others last : List Value}
    (each : ∀ v ∈ items, ∀ w u, v.same w = true → w.same u = true → v.same u = true)
    (first : sameItems items others = true) (second : sameItems others last = true) :
    sameItems items last = true := by
  induction items generalizing others last with
  | nil =>
    cases others with
    | nil => exact second
    | cons w more => cases first
  | cons v rest ih =>
    obtain ⟨w, more, rfl, here, later⟩ := sameItems_cons.mp first
    obtain ⟨u, end', rfl, next, after⟩ := sameItems_cons.mp second
    exact sameItems_cons.mpr ⟨u, end', rfl, each v List.mem_cons_self w u here next,
      ih (fun x member => each x (List.mem_cons_of_mem v member)) later after⟩

theorem sameEntries_trans {entries others last : Document}
    (each : ∀ key v, (key, v) ∈ entries →
      ∀ w u, v.same w = true → w.same u = true → v.same u = true)
    (first : sameEntries entries others = true) (second : sameEntries others last = true) :
    sameEntries entries last = true := by
  induction entries generalizing others last with
  | nil =>
    cases others with
    | nil => exact second
    | cons other more => cases first
  | cons entry rest ih =>
    obtain ⟨key, v⟩ := entry
    obtain ⟨w, more, rfl, here, later⟩ := sameEntries_cons.mp first
    obtain ⟨u, end', rfl, next, after⟩ := sameEntries_cons.mp second
    exact sameEntries_cons.mpr ⟨u, end', rfl, each key v List.mem_cons_self w u here next,
      ih (fun name x member => each name x (List.mem_cons_of_mem _ member)) later after⟩

theorem same_trans {v w u : Value} (first : v.same w = true) (second : w.same u = true) :
    v.same u = true := by
  induction v using tree_induction generalizing w u with
  | leaf v leaf =>
    rcases leaf_cases leaf with ⟨x, rfl⟩ | noDouble
    · obtain ⟨y, rfl, left⟩ := same_double.mp first
      obtain ⟨z, rfl, right⟩ := same_double.mp second
      obtain ⟨hx, _, before⟩ := Double.equal_iff.mp left
      obtain ⟨_, hz, after⟩ := Double.equal_iff.mp right
      exact Double.equal_iff.mpr ⟨hx, hz, before.trans after⟩
    · obtain rfl := (same_leaf leaf noDouble).mp first
      exact second
  | array items ih =>
    obtain ⟨others, rfl, first⟩ := same_array.mp first
    obtain ⟨last, rfl, second⟩ := same_array.mp second
    exact sameItems_trans (fun v member _ _ => ih v member) first second
  | document entries ih =>
    obtain ⟨others, rfl, first⟩ := same_document.mp first
    obtain ⟨last, rfl, second⟩ := same_document.mp second
    exact sameEntries_trans (fun key v member _ _ => ih key v member) first second

/-- Equal values are of one kind. -/
theorem rank_of_same {v w : Value} (equal : v.same w = true) : v.rank = w.rank := by
  cases v <;> cases w <;> first | rfl | cases equal

end PolicyGate.Value
