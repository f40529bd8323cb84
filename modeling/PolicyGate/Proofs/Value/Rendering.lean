import PolicyGate.Proofs.Json.Reading
import PolicyGate.Proofs.Value.Nodes
import PolicyGate.Value.Json

/-!
The two renderings of a value agree, and a value is given back by its JSON but for its dates.
-/
namespace PolicyGate.Value

theorem itemsToJson_eq_map (items : List Value) : itemsToJson items = items.map toJson := by
  induction items with
  | nil => rfl
  | cons v rest ih => rw [itemsToJson, ih, List.map_cons]

theorem entriesToJson_eq_foldl (made : Fields Json) (entries : Document) :
    entriesToJson made entries =
      (entries.map fun entry => (entry.1, entry.2.toJson)).foldl
        (fun fields (name, x) => fields.insert name x) made := by
  induction entries generalizing made with
  | nil => rfl
  | cons entry rest ih => rw [entriesToJson, ih, List.map_cons, List.foldl_cons]

theorem distinct_map {α β : Type} {entries : Fields α} (distinct : entries.Distinct) (f : α → β) :
    Fields.Distinct (entries.map fun entry => (entry.1, f entry.2)) := by
  have same : Fields.keys (entries.map fun entry => (entry.1, f entry.2)) = entries.keys := by
    rw [Fields.keys, List.map_map]
    rfl
  rwa [Fields.Distinct, same]

theorem map_entries_congr {α : Type} {f g : Value → α} {entries : Document}
    (each : ∀ key v, (key, v) ∈ entries → f v = g v) :
    (entries.map fun entry => (entry.1, f entry.2)) = entries.map fun entry => (entry.1, g entry.2) := by
  apply List.map_congr_left
  rintro ⟨key, v⟩ member
  exact congrArg (Prod.mk key) (each key v member)

theorem toJson_document {entries : Document} (distinct : Fields.Distinct entries) :
    (Value.document entries).toJson =
      .object (entries.map fun entry => (entry.1, entry.2.toJson)) := by
  rw [toJson, entriesToJson_eq_foldl]
  exact congrArg Json.object (Fields.ofEntries_of_distinct (distinct_map distinct toJson))

theorem itemsOfJson_eq_map (items : List Json) : itemsOfJson items = items.map ofJson := by
  induction items with
  | nil => rfl
  | cons x rest ih => rw [itemsOfJson, ih, List.map_cons]

theorem membersOfJson_eq_foldl (made : Document) (members : List (String × Json)) :
    membersOfJson made members =
      (members.map fun entry => (entry.1, ofJson entry.2)).foldl
        (fun fields (name, v) => Fields.insert name v fields) made := by
  induction members generalizing made with
  | nil => rfl
  | cons entry rest ih => rw [membersOfJson, ih, List.map_cons, List.foldl_cons]

theorem ofJson_object {members : Fields Json} (distinct : members.Distinct) :
    ofJson (.object members) =
      .document (members.map fun entry => (entry.1, ofJson entry.2)) := by
  rw [ofJson, membersOfJson_eq_foldl]
  exact congrArg Value.document (Fields.ofEntries_of_distinct (distinct_map distinct ofJson))

theorem renderItems_eq {items : List Value} (each : ∀ v ∈ items, v.render = v.toJson.chars) :
    renderItems items = Json.itemChars (items.map toJson) := by
  induction items with
  | nil => rfl
  | cons v rest ih =>
    rw [renderItems, List.map_cons, Json.itemChars, each v List.mem_cons_self,
      ih fun w member => each w (List.mem_cons_of_mem v member)]

theorem renderEntries_eq {entries : Document}
    (each : ∀ key v, (key, v) ∈ entries → v.render = v.toJson.chars) :
    renderEntries entries =
      Json.memberChars (entries.map fun entry => (entry.1, entry.2.toJson)) := by
  induction entries with
  | nil => rfl
  | cons entry rest ih =>
    obtain ⟨key, v⟩ := entry
    rw [renderEntries, List.map_cons, Json.memberChars, each key v List.mem_cons_self,
      ih fun other w member => each other w (List.mem_cons_of_mem _ member)]

/-- Writing the text directly and writing the tree give the same text. -/
theorem render_eq_chars {v : Value} (distinct : v.HasDistinctKeys) : v.render = v.toJson.chars := by
  induction v using tree_induction with
  | leaf v leaf =>
    cases v with
    | double x =>
      rw [render, toJson, Json.chars]
      split <;> rename_i finite
      · rw [Json.chars, if_pos finite]
      · rw [Json.chars]
    | array items => cases leaf
    | document entries => cases leaf
    | _ => rfl
  | array items ih =>
    have each := hasDistinctKeys_array.mp distinct
    rw [toJson, itemsToJson_eq_map]
    cases items with
    | nil => rfl
    | cons v rest =>
      rw [render, List.map_cons, Json.chars, ih v List.mem_cons_self (each v List.mem_cons_self),
        renderItems_eq fun w member =>
          ih w (List.mem_cons_of_mem v member) (each w (List.mem_cons_of_mem v member))]
  | document entries ih =>
    obtain ⟨here, each⟩ := hasDistinctKeys_document.mp distinct
    rw [toJson_document here]
    cases entries with
    | nil => rfl
    | cons entry rest =>
      obtain ⟨key, v⟩ := entry
      rw [render, List.map_cons, Json.chars, ih key v List.mem_cons_self (each _ List.mem_cons_self),
        renderEntries_eq fun other w member =>
          ih other w (List.mem_cons_of_mem _ member) (each _ (List.mem_cons_of_mem _ member))]

/-- No date and no double stands in the value. -/
def Plain (v : Value) : Prop :=
  ∀ k w, v.HasNode k w → (∀ t, w ≠ .date t) ∧ ∀ x, w ≠ .double x

theorem plain_leaf {v : Value} (leaf : v.isLeaf = true) (noDate : ∀ t, v ≠ .date t)
    (noDouble : ∀ x, v ≠ .double x) : v.Plain := by
  intro k w node
  obtain ⟨_, rfl⟩ := (hasNode_leaf leaf).mp node
  exact ⟨noDate, noDouble⟩

theorem plain_array {items : List Value} :
    (Value.array items).Plain ↔ ∀ v ∈ items, v.Plain := by
  rw [Plain, forall_hasNode_array]
  simp [Plain]

theorem plain_document {entries : Document} :
    (Value.document entries).Plain ↔ ∀ key v, (key, v) ∈ entries → v.Plain := by
  rw [Plain, forall_hasNode_document]
  simp [Plain]

theorem ofInteger_toInt (n : Int64) : ofInteger n.toInt = .int n := by
  rw [ofInteger, if_pos ⟨n.minValue_le_toInt, n.toInt_le⟩, Int64.ofInt_toInt]

/-- No double in the value is infinite or not a number. -/
def Finite (v : Value) : Prop := v.AllLeaves fun w => ∀ x, w = .double x → x.isFinite = true

def Dateless (v : Value) : Prop := v.AllLeaves fun w => ∀ t, w ≠ .date t

theorem Plain.finite {v : Value} (plain : v.Plain) : v.Finite := by
  intro k w node _ x same
  exact absurd same ((plain k w node).2 x)

theorem Plain.dateless {v : Value} (plain : v.Plain) : v.Dateless := by
  intro k w node _
  exact (plain k w node).1

/-- A date as the document that its JSON is read as. -/
def undated : Value → Value
  | .date t => .document [(dateKey, .string t.text)]
  | v => v

theorem undated_of_ne {v : Value} (noDate : ∀ t, v ≠ .date t) : v.undated = v := by
  cases v with
  | date t => exact absurd rfl (noDate t)
  | _ => rfl

theorem mapLeaves_undated {v : Value} (distinct : v.HasDistinctKeys) (dateless : v.Dateless) :
    v.mapLeaves undated = v := by
  apply mapLeaves_of_fixed distinct
  intro k w node leaf
  exact undated_of_ne (dateless k w node leaf)

theorem ofJson_toJson {v : Value} (distinct : v.HasDistinctKeys) (finite : v.Finite) :
    ofJson v.toJson = v.mapLeaves undated := by
  induction v using tree_induction with
  | leaf v leaf =>
    rw [mapLeaves_leaf undated leaf]
    cases v with
    | int n => exact ofInteger_toInt n
    | double x => rw [toJson, if_pos ((allLeaves_leaf leaf).mp finite x rfl), ofJson, undated]; nofun
    | array items => cases leaf
    | document entries => cases leaf
    | _ => rfl
  | array items ih =>
    have inside := allLeaves_array.mp finite
    have each := hasDistinctKeys_array.mp distinct
    have back : items.map (ofJson ∘ toJson) = items.map (mapLeaves undated) :=
      List.map_congr_left fun v member => ih v member (each v member) (inside v member)
    rw [toJson, itemsToJson_eq_map, ofJson, itemsOfJson_eq_map, List.map_map, back, mapLeaves,
      mapItems_eq_map]
  | document entries ih =>
    have inside := allLeaves_document.mp finite
    obtain ⟨here, each⟩ := hasDistinctKeys_document.mp distinct
    have back := map_entries_congr fun key v member =>
      ih key v member (each _ member) (inside key v member)
    rw [toJson_document here, ofJson_object (distinct_map here toJson), List.map_map,
      mapLeaves_document undated here, mapEntries_eq_map]
    exact congrArg Value.document back

theorem depth_le_listDepth {items : List Value} {v : Value} (member : v ∈ items) :
    v.depth ≤ listDepth items := by
  induction items with
  | nil => cases member
  | cons first rest ih =>
    rw [listDepth]
    rcases List.mem_cons.mp member with rfl | later
    · exact Nat.le_max_left _ _
    · exact Nat.le_trans (ih later) (Nat.le_max_right _ _)

theorem depth_le_entryDepth {entries : Document} {key : String} {v : Value}
    (member : (key, v) ∈ entries) : v.depth ≤ entryDepth entries := by
  induction entries with
  | nil => cases member
  | cons first rest ih =>
    rw [entryDepth]
    rcases List.mem_cons.mp member with rfl | later
    · exact Nat.le_max_left _ _
    · exact Nat.le_trans (ih later) (Nat.le_max_right _ _)

/-- The JSON of a plain value is legible as far as the value is deep. -/
theorem legible_toJson {v : Value} (plain : v.Plain) (distinct : v.HasDistinctKeys) {levels : Nat}
    (shallow : v.depth ≤ levels) : Json.Legible levels v.toJson := by
  induction v using tree_induction generalizing levels with
  | leaf v leaf =>
    have self := plain 0 v (.root v)
    cases v with
    | null => exact .null
    | bool b => exact .bool b
    | int n =>
      have high : n.toInt ≤ 9223372036854775807 := n.toInt_le
      exact .int n.minValue_le_toInt (by
        change n.toInt ≤ 18446744073709551615
        omega)
    | double x => exact absurd rfl (self.2 x)
    | string s => exact .string s
    | date t => exact absurd rfl (self.1 t)
    | array items => cases leaf
    | document entries => cases leaf
  | array items ih =>
    have inside := plain_array.mp plain
    have each := hasDistinctKeys_array.mp distinct
    rw [depth] at shallow
    obtain ⟨levels, rfl⟩ := Nat.exists_eq_add_of_lt (Nat.lt_of_succ_le shallow)
    rw [toJson, itemsToJson_eq_map]
    apply Json.Legible.array
    intro x made
    obtain ⟨v, member, rfl⟩ := List.mem_map.mp made
    exact ih v member (inside v member) (each v member)
      (Nat.le_trans (depth_le_listDepth member) (Nat.le_add_right _ _))
  | document entries ih =>
    have inside := plain_document.mp plain
    obtain ⟨here, each⟩ := hasDistinctKeys_document.mp distinct
    rw [depth] at shallow
    obtain ⟨levels, rfl⟩ := Nat.exists_eq_add_of_lt (Nat.lt_of_succ_le shallow)
    rw [toJson_document here]
    apply Json.Legible.object (distinct_map here toJson)
    intro entry made
    obtain ⟨⟨key, v⟩, member, rfl⟩ := List.mem_map.mp made
    exact ih key v member (inside key v member) (each _ member)
      (Nat.le_trans (depth_le_entryDepth member) (Nat.le_add_right _ _))

/-- The text of a plain value is read as the value itself. -/
theorem read_text {v : Value} (plain : v.Plain) (distinct : v.HasDistinctKeys)
    (shallow : v.depth ≤ Json.nestingLimit) :
    (Json.read v.text).map ofJson = .ok v := by
  have same : v.text = v.toJson.text := by rw [Value.text, Json.text, render_eq_chars distinct]
  rw [same, Json.read_text (legible_toJson plain distinct shallow)]
  rw [Except.map, ofJson_toJson distinct plain.finite, mapLeaves_undated distinct plain.dateless]

end PolicyGate.Value
