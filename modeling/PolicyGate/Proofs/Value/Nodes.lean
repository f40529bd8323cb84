import PolicyGate.Value.Basic

/-!
The nodes of a value and their levels, and values with other leaves.
-/
namespace PolicyGate.Value

def isLeaf : Value → Bool
  | .array _ => false
  | .document _ => false
  | _ => true

/-- `v.HasNode k w`: the value `w` stands `k` levels below the root of `v`. -/
inductive HasNode : Value → Nat → Value → Prop where
  | root (v : Value) : HasNode v 0 v
  | item {items : List Value} {v w : Value} {k : Nat} :
      v ∈ items → HasNode v k w → HasNode (.array items) (k + 1) w
  | entry {entries : Document} {key : String} {v w : Value} {k : Nat} :
      (key, v) ∈ entries → HasNode v k w → HasNode (.document entries) (k + 1) w

@[elab_as_elim]
theorem tree_induction {P : Value → Prop} (leaf : ∀ v, v.isLeaf = true → P v)
    (array : ∀ items, (∀ v ∈ items, P v) → P (.array items))
    (document : ∀ entries : Document, (∀ key v, (key, v) ∈ entries → P v) → P (.document entries))
    (v : Value) : P v := by
  refine @Value.rec P (fun items => ∀ v ∈ items, P v)
    (fun entries => ∀ key v, (key, v) ∈ entries → P v) (fun entry => P entry.2)
    (leaf _ rfl) (fun _ => leaf _ rfl) (fun _ => leaf _ rfl) (fun _ => leaf _ rfl)
    (fun _ => leaf _ rfl) (fun _ => leaf _ rfl) array document ?_ ?_ ?_ ?_ (fun _ _ h => h) v
  · intro v member
    cases member
  · intro first rest ofFirst ofRest v member
    rcases List.mem_cons.mp member with rfl | later
    · exact ofFirst
    · exact ofRest v later
  · intro key v member
    cases member
  · intro first rest ofFirst ofRest key v member
    rcases List.mem_cons.mp member with rfl | later
    · exact ofFirst
    · exact ofRest key v later

theorem HasNode.trans {v w u : Value} {k j : Nat} (above : v.HasNode k w) (below : w.HasNode j u) :
    v.HasNode (k + j) u := by
  induction above with
  | root v => rwa [Nat.zero_add]
  | @item _ _ _ k member _ ih =>
    rw [Nat.add_right_comm]
    exact .item member (ih below)
  | @entry _ _ _ _ k member _ ih =>
    rw [Nat.add_right_comm]
    exact .entry member (ih below)

theorem hasNode_leaf {v : Value} (leaf : v.isLeaf = true) {k : Nat} {w : Value} :
    v.HasNode k w ↔ k = 0 ∧ w = v := by
  constructor
  · intro h
    cases h with
    | root => exact ⟨rfl, rfl⟩
    | item => cases leaf
    | entry => cases leaf
  · rintro ⟨rfl, rfl⟩
    exact .root w

theorem hasNode_single {key : String} {v w : Value} {k : Nat}
    (node : (Value.document [(key, v)]).HasNode k w) :
    w = .document [(key, v)] ∨ ∃ j, v.HasNode j w := by
  cases node with
  | root => exact .inl rfl
  | entry member below =>
    cases List.mem_singleton.mp member
    exact .inr ⟨_, below⟩

theorem forall_hasNode_array {items : List Value} {P : Nat → Value → Prop} :
    (∀ k w, (Value.array items).HasNode k w → P k w) ↔
      P 0 (.array items) ∧ ∀ v ∈ items, ∀ k w, v.HasNode k w → P (k + 1) w := by
  constructor
  · intro h
    exact ⟨h 0 _ (.root _), fun v member k w below => h (k + 1) w (.item member below)⟩
  · rintro ⟨here, inside⟩ k w below
    cases below with
    | root => exact here
    | item member below => exact inside _ member _ _ below

theorem forall_hasNode_document {entries : Document} {P : Nat → Value → Prop} :
    (∀ k w, (Value.document entries).HasNode k w → P k w) ↔
      P 0 (.document entries) ∧
        ∀ key v, (key, v) ∈ entries → ∀ k w, v.HasNode k w → P (k + 1) w := by
  constructor
  · intro h
    exact ⟨h 0 _ (.root _), fun key v member k w below => h (k + 1) w (.entry member below)⟩
  · rintro ⟨here, inside⟩ k w below
    cases below with
    | root => exact here
    | entry member below => exact inside _ _ member _ _ below

/-- The leaves at all levels meet a condition. -/
def AllLeaves (P : Value → Prop) (v : Value) : Prop :=
  ∀ k w, v.HasNode k w → w.isLeaf = true → P w

theorem allLeaves_leaf {P : Value → Prop} {v : Value} (leaf : v.isLeaf = true) :
    v.AllLeaves P ↔ P v := by
  constructor
  · intro all
    exact all 0 v (.root v) leaf
  · intro here k w node _
    obtain ⟨_, rfl⟩ := (hasNode_leaf leaf).mp node
    exact here

theorem allLeaves_array {P : Value → Prop} {items : List Value} :
    (Value.array items).AllLeaves P ↔ ∀ v ∈ items, v.AllLeaves P := by
  rw [AllLeaves, forall_hasNode_array]
  simp [AllLeaves, isLeaf]

theorem allLeaves_document {P : Value → Prop} {entries : Document} :
    (Value.document entries).AllLeaves P ↔ ∀ key v, (key, v) ∈ entries → v.AllLeaves P := by
  rw [AllLeaves, forall_hasNode_document]
  simp [AllLeaves, isLeaf]

mutual

def mapLeaves (f : Value → Value) : Value → Value
  | .array items => .array (mapItems f items)
  | .document entries => .document (Fields.ofEntries (mapEntries f entries))
  | leaf => f leaf

def mapItems (f : Value → Value) : List Value → List Value
  | [] => []
  | v :: rest => v.mapLeaves f :: mapItems f rest

def mapEntries (f : Value → Value) : List (String × Value) → List (String × Value)
  | [] => []
  | (key, v) :: rest => (key, v.mapLeaves f) :: mapEntries f rest

end

theorem mapLeaves_leaf (f : Value → Value) {v : Value} (leaf : v.isLeaf = true) :
    v.mapLeaves f = f v := by
  cases v <;> first | rfl | cases leaf

theorem mapItems_eq_map (f : Value → Value) (items : List Value) :
    mapItems f items = items.map (mapLeaves f) := by
  induction items with
  | nil => rfl
  | cons v rest ih => simp only [mapItems, ih, List.map_cons]

theorem mem_mapEntries {f : Value → Value} {entries : Document} {key : String} {w : Value} :
    (key, w) ∈ mapEntries f entries ↔ ∃ v, (key, v) ∈ entries ∧ w = v.mapLeaves f := by
  induction entries with
  | nil => simp [mapEntries]
  | cons e rest ih =>
    obtain ⟨name, first⟩ := e
    simp only [mapEntries, List.mem_cons, Prod.mk.injEq, ih]
    constructor
    · rintro (⟨rfl, rfl⟩ | ⟨v, member, rfl⟩)
      · exact ⟨first, .inl ⟨rfl, rfl⟩, rfl⟩
      · exact ⟨v, .inr member, rfl⟩
    · rintro ⟨v, ⟨rfl, rfl⟩ | member, rfl⟩
      · exact .inl ⟨rfl, rfl⟩
      · exact .inr ⟨v, member, rfl⟩

/-- The nodes of a tree with other leaves are nodes of the tree, with other leaves. -/
theorem hasNode_mapLeaves {f : Value → Value} (leaves : ∀ v, v.isLeaf = true → (f v).isLeaf = true)
    {v w : Value} {k : Nat} (node : (v.mapLeaves f).HasNode k w) :
    ∃ u, v.HasNode k u ∧ u.mapLeaves f = w := by
  induction v using tree_induction generalizing k w with
  | leaf v leaf =>
    rw [mapLeaves_leaf f leaf] at node
    obtain ⟨rfl, rfl⟩ := (hasNode_leaf (leaves v leaf)).mp node
    exact ⟨v, .root v, mapLeaves_leaf f leaf⟩
  | array items ih =>
    rw [mapLeaves, mapItems_eq_map] at node
    cases node with
    | root => exact ⟨_, .root _, by rw [mapLeaves, mapItems_eq_map]⟩
    | item member below =>
      obtain ⟨v, inside, rfl⟩ := List.mem_map.mp member
      obtain ⟨u, node, same⟩ := ih v inside below
      exact ⟨u, .item inside node, same⟩
  | document entries ih =>
    rw [mapLeaves] at node
    cases node with
    | root => exact ⟨_, .root _, by rw [mapLeaves]⟩
    | entry member below =>
      obtain ⟨v, inside, rfl⟩ := mem_mapEntries.mp (Fields.mem_ofEntries member)
      obtain ⟨u, node, same⟩ := ih _ v inside below
      exact ⟨u, .entry inside node, same⟩

theorem mapEntries_eq_map (f : Value → Value) (entries : Document) :
    mapEntries f entries = entries.map fun entry => (entry.1, entry.2.mapLeaves f) := by
  induction entries with
  | nil => rfl
  | cons entry rest ih => simp only [mapEntries, ih, List.map_cons]

theorem keys_mapEntries (f : Value → Value) (entries : Document) :
    Fields.keys (mapEntries f entries) = Fields.keys entries := by
  rw [mapEntries_eq_map, Fields.keys, Fields.keys, List.map_map]
  rfl

theorem mapLeaves_document (f : Value → Value) {entries : Document}
    (distinct : Fields.Distinct entries) :
    (Value.document entries).mapLeaves f = .document (mapEntries f entries) := by
  rw [mapLeaves, Fields.ofEntries_of_distinct]
  rwa [Fields.Distinct, keys_mapEntries]

/-- No document at any level has a key twice. -/
def HasDistinctKeys (v : Value) : Prop :=
  ∀ k entries, v.HasNode k (.document entries) → Fields.Distinct entries

theorem hasDistinctKeys_leaf {v : Value} (leaf : v.isLeaf = true) : v.HasDistinctKeys := by
  intro k entries node
  obtain ⟨_, rfl⟩ := (hasNode_leaf leaf).mp node
  cases leaf

theorem hasDistinctKeys_array {items : List Value} :
    (Value.array items).HasDistinctKeys ↔ ∀ v ∈ items, v.HasDistinctKeys := by
  constructor
  · intro distinct v member k entries node
    exact distinct (k + 1) entries (.item member node)
  · intro each k entries node
    cases node with
    | item member below => exact each _ member _ _ below

theorem hasDistinctKeys_document {entries : Document} :
    (Value.document entries).HasDistinctKeys ↔
      Fields.Distinct entries ∧ ∀ entry ∈ entries, entry.2.HasDistinctKeys := by
  constructor
  · intro distinct
    refine ⟨distinct 0 entries (.root _), ?_⟩
    rintro ⟨key, v⟩ member k inner node
    exact distinct (k + 1) inner (.entry member node)
  · rintro ⟨here, each⟩ k inner node
    cases node with
    | root => exact here
    | entry member below => exact each _ member _ _ below

theorem hasDistinctKeys_empty : (Value.document []).HasDistinctKeys :=
  hasDistinctKeys_document.mpr ⟨List.nodup_nil, fun _ member => absurd member List.not_mem_nil⟩

theorem HasDistinctKeys.insert {d : Document} (distinct : (Value.document d).HasDistinctKeys)
    (name : String) {v : Value} (inner : v.HasDistinctKeys) :
    (Value.document (Fields.insert name v d)).HasDistinctKeys := by
  obtain ⟨here, each⟩ := hasDistinctKeys_document.mp distinct
  refine hasDistinctKeys_document.mpr ⟨here.insert name v, fun entry member => ?_⟩
  rcases Fields.mem_insert member with rfl | old
  · exact inner
  · exact each entry old

theorem HasDistinctKeys.sublist {d kept : Document} (distinct : (Value.document d).HasDistinctKeys)
    (sub : kept.Sublist d) : (Value.document kept).HasDistinctKeys := by
  obtain ⟨here, each⟩ := hasDistinctKeys_document.mp distinct
  exact hasDistinctKeys_document.mpr
    ⟨here.sublist sub, fun entry member => each entry (sub.subset member)⟩

/-- A tree with other leaves is rebuilt from documents of distinct keys. -/
theorem hasDistinctKeys_mapLeaves {f : Value → Value}
    (leaves : ∀ v, v.isLeaf = true → (f v).isLeaf = true) (v : Value) :
    (v.mapLeaves f).HasDistinctKeys := by
  intro k entries node
  obtain ⟨u, _, same⟩ := hasNode_mapLeaves leaves node
  by_cases leaf : u.isLeaf = true
  · have kept := leaves u leaf
    rw [← mapLeaves_leaf f leaf, same] at kept
    cases kept
  · cases u with
    | document original =>
      rw [mapLeaves, document.injEq] at same
      rw [← same]
      exact Fields.distinct_ofEntries _
    | array items => cases same
    | _ => exact absurd rfl leaf

theorem mapLeaves_of_fixed {f : Value → Value} {v : Value} (distinct : v.HasDistinctKeys)
    (fixed : v.AllLeaves fun u => f u = u) : v.mapLeaves f = v := by
  induction v using tree_induction with
  | leaf v leaf => rw [mapLeaves_leaf f leaf, (allLeaves_leaf leaf).mp fixed]
  | array items ih =>
    have each := hasDistinctKeys_array.mp distinct
    have inside := allLeaves_array.mp fixed
    have same : items.map (mapLeaves f) = items.map id := by
      apply List.map_congr_left
      intro v member
      exact ih v member (each v member) (inside v member)
    rw [mapLeaves, mapItems_eq_map, same, List.map_id]
  | document entries ih =>
    obtain ⟨here, each⟩ := hasDistinctKeys_document.mp distinct
    have inside := allLeaves_document.mp fixed
    have same : entries.map (fun entry => (entry.1, entry.2.mapLeaves f)) = entries.map id := by
      apply List.map_congr_left
      rintro ⟨key, v⟩ member
      exact Prod.ext rfl (ih key v member (each _ member) (inside key v member))
    rw [mapLeaves_document f here, mapEntries_eq_map, same, List.map_id]

end PolicyGate.Value
