import PolicyGate.Proofs.Value.Rendering
import PolicyGate.Value.Writer

/-!
A value written part by part and its JSON tree written part by part give the same in every format. The
JSON is read back as the value itself, but for its dates.
-/
namespace PolicyGate

variable {α σ τ : Type}

namespace Json

theorem writeItems_eq_foldl (w : Writer α σ τ) (made : σ) (items : List Json) :
    writeItems w made items = (items.map (write w)).foldl w.item made := by
  induction items generalizing made with
  | nil => rfl
  | cons x rest ih => simp [writeItems, ih]

theorem writeMembers_eq_foldl (w : Writer α σ τ) (made : τ) (members : List (String × Json)) :
    writeMembers w made members =
      (members.map fun entry => (entry.1, entry.2.write w)).foldl
        (fun made (name, x) => w.entry made name x) made := by
  induction members generalizing made with
  | nil => rfl
  | cons entry rest ih => simp [writeMembers, ih]

end Json

namespace Value

theorem writeItems_eq_foldl (w : Writer α σ τ) (made : σ) (items : List Value) :
    writeItems w made items = (items.map (write w)).foldl w.item made := by
  induction items generalizing made with
  | nil => rfl
  | cons v rest ih => simp [writeItems, ih]

theorem writeEntries_eq_foldl (w : Writer α σ τ) (made : τ) (entries : Document) :
    writeEntries w made entries =
      (entries.map fun entry => (entry.1, entry.2.write w)).foldl
        (fun made (name, x) => w.entry made name x) made := by
  induction entries generalizing made with
  | nil => rfl
  | cons entry rest ih => simp [writeEntries, ih]

theorem foldl_collect (made items : List Json) :
    items.foldl Writer.tree.item made = made ++ items := by
  induction items generalizing made with
  | nil => exact (List.append_nil made).symm
  | cons x rest ih =>
    rw [List.foldl_cons, ih]
    exact List.append_assoc made [x] rest

theorem write_tree (v : Value) : v.write .tree = v.toJson := by
  induction v using tree_induction with
  | leaf v leaf =>
    cases v with
    | array items => cases leaf
    | document entries => cases leaf
    | _ => rfl
  | array items ih =>
    rw [write, writeItems_eq_foldl, List.map_congr_left ih, toJson, itemsToJson_eq_map, foldl_collect]
    rfl
  | document entries ih =>
    rw [write, writeEntries_eq_foldl, map_entries_congr ih, toJson, entriesToJson_eq_foldl]
    rfl

theorem writeItems_text {items : List Value} (each : ∀ v ∈ items, v.write .text = v.render)
    (made : List Char) :
    Writer.text.listEnd (writeItems .text (some made) items) = '[' :: made ++ renderItems items := by
  induction items generalizing made with
  | nil => rfl
  | cons v rest ih =>
    have later := ih fun w member => each w (List.mem_cons_of_mem v member)
    rw [writeItems, each v List.mem_cons_self, renderItems]
    simpa [Writer.text, Writer.parted] using later (made ++ ',' :: v.render)

theorem writeEntries_text {entries : Document}
    (each : ∀ key v, (key, v) ∈ entries → v.write .text = v.render) (made : List Char) :
    Writer.text.objectEnd (writeEntries .text (some made) entries) =
      '{' :: made ++ renderEntries entries := by
  induction entries generalizing made with
  | nil => rfl
  | cons entry rest ih =>
    obtain ⟨key, v⟩ := entry
    have later := ih fun other w member => each other w (List.mem_cons_of_mem _ member)
    rw [writeEntries, each key v List.mem_cons_self, renderEntries]
    simpa [Writer.text, Writer.parted] using later (made ++ ',' :: (Json.quote key ++ ':' :: v.render))

theorem write_text (v : Value) : v.write .text = v.render := by
  induction v using tree_induction with
  | leaf v leaf =>
    cases v with
    | array items => cases leaf
    | document entries => cases leaf
    | date t => simp [write, render, Writer.text, Writer.parted, Json.chars, Json.memberChars]
    | _ => rfl
  | array items ih =>
    cases items with
    | nil => rfl
    | cons v rest =>
      have later := writeItems_text fun w member => ih w (List.mem_cons_of_mem v member)
      rw [write, writeItems, ih v List.mem_cons_self]
      exact later v.render
  | document entries ih =>
    cases entries with
    | nil => rfl
    | cons entry rest =>
      obtain ⟨key, v⟩ := entry
      have later := writeEntries_text fun other w member => ih other w (List.mem_cons_of_mem _ member)
      rw [write, writeEntries, ih key v List.mem_cons_self, render]
      simpa [Writer.text, Writer.parted] using later (Json.quote key ++ ':' :: v.render)

/-- A value is written like its JSON tree. -/
theorem write_toJson (w : Writer α σ τ) {v : Value} (distinct : v.HasDistinctKeys)
    (finite : v.Finite) : v.toJson.write w = v.write w := by
  induction v using tree_induction with
  | leaf v leaf =>
    cases v with
    | double x => rw [toJson, if_pos ((allLeaves_leaf leaf).mp finite x rfl), Json.write, write]
    | array items => cases leaf
    | document entries => cases leaf
    | _ => rfl
  | array items ih =>
    have inside := allLeaves_array.mp finite
    have each := hasDistinctKeys_array.mp distinct
    have same : items.map (Json.write w ∘ toJson) = items.map (write w) :=
      List.map_congr_left fun v member => ih v member (each v member) (inside v member)
    rw [toJson, itemsToJson_eq_map, Json.write, Json.writeItems_eq_foldl, List.length_map,
      List.map_map, same, write, writeItems_eq_foldl]
  | document entries ih =>
    have inside := allLeaves_document.mp finite
    obtain ⟨here, each⟩ := hasDistinctKeys_document.mp distinct
    have same := map_entries_congr fun key v member =>
      ih key v member (each _ member) (inside key v member)
    rw [toJson_document here, Json.write, Json.writeMembers_eq_foldl, List.length_map, List.map_map,
      write, writeEntries_eq_foldl, ← same]
    rfl

/-- Whatever a value is written in, it is written as its JSON tree is; collected into a tree it is that
tree. The tree is read back as the value with every date as a document, and as the value itself if no date
is in it. -/
theorem rendering_loses_only_dates {v : Value} (distinct : v.HasDistinctKeys) (finite : v.Finite) :
    v.write .tree = v.toJson ∧ v.write .text = v.render ∧ v.render = v.toJson.chars ∧
      (∀ (α σ τ : Type) (w : Writer α σ τ), v.write w = v.toJson.write w) ∧
      ofJson v.toJson = v.mapLeaves undated ∧
      (v.Dateless → ofJson v.toJson = v) := by
  have back := ofJson_toJson distinct finite
  refine ⟨write_tree v, write_text v, render_eq_chars distinct, ?_, back, ?_⟩
  · intro α σ τ w
    exact (write_toJson w distinct finite).symm
  · intro dateless
    rw [back, mapLeaves_undated distinct dateless]

/-- A leaf at two levels, beside the integer and the double of one. -/
def twice (leaf : Value) : Value :=
  .document [("z", .array [leaf, .int 1, .double (Double.ofInt 1)]), ("a", .document [("m", leaf)])]

theorem allLeaves_twice {P : Value → Prop} {leaf : Value} (isLeaf : leaf.isLeaf = true)
    (here : P leaf) (int : P (.int 1)) (double : P (.double (Double.ofInt 1))) :
    (twice leaf).AllLeaves P := by
  have leaves := (allLeaves_leaf isLeaf).mpr here
  have ints := (allLeaves_leaf (v := .int 1) rfl).mpr int
  have doubles := (allLeaves_leaf (v := .double (Double.ofInt 1)) rfl).mpr double
  simp [twice, allLeaves_document, allLeaves_array, or_imp, forall_and, leaves, ints, doubles]

theorem hasDistinctKeys_twice {leaf : Value} (isLeaf : leaf.isLeaf = true) :
    (twice leaf).HasDistinctKeys := by
  have int (n : Int64) : (Value.int n).HasDistinctKeys := hasDistinctKeys_leaf rfl
  have double (x : Double) : (Value.double x).HasDistinctKeys := hasDistinctKeys_leaf rfl
  simp [twice, hasDistinctKeys_document, hasDistinctKeys_array, Fields.Distinct, int, double,
    hasDistinctKeys_leaf isLeaf]

theorem rendering_loses_only_dates_twice :
    (twice (.date ⟨1619861400, 500000000⟩)).HasDistinctKeys ∧
      (twice (.date ⟨1619861400, 500000000⟩)).Finite ∧
      ofJson (twice (.date ⟨1619861400, 500000000⟩)).toJson =
        twice (.document [("$date", .string "2021-05-01T09:30:00.500Z")]) ∧
      (twice (.string "#")).Dateless ∧ ofJson (twice (.string "#")).toJson = twice (.string "#") := by
  have one : ∀ x, Value.double (Double.ofInt 1) = .double x → x.isFinite = true := by
    intro x same
    rw [← Value.double.inj same]
    decide +kernel
  have dated : (twice (.date ⟨1619861400, 500000000⟩)).Finite := allLeaves_twice rfl nofun nofun one
  have distinct : (twice (.date ⟨1619861400, 500000000⟩)).HasDistinctKeys := hasDistinctKeys_twice rfl
  have dateless : (twice (.string "#")).Dateless := allLeaves_twice rfl nofun nofun nofun
  have text : Timestamp.text ⟨1619861400, 500000000⟩ = "2021-05-01T09:30:00.500Z" := by decide +kernel
  obtain ⟨_, _, _, _, shown, _⟩ := rendering_loses_only_dates distinct dated
  have finite : (twice (.string "#")).Finite := allLeaves_twice rfl nofun nofun one
  obtain ⟨_, _, _, _, _, kept⟩ := rendering_loses_only_dates (hasDistinctKeys_twice rfl) finite
  refine ⟨distinct, dated, ?_, dateless, kept dateless⟩
  rw [shown, ← text]
  rfl

end Value
end PolicyGate
