import Mathlib.Data.List.Forall2
import PolicyGate.Proofs.Value.Nodes
import PolicyGate.Value.Path

/-!
Dotted paths and the nodes they lead to. A node is reached from the root step by step, and the steps,
written one after the other, are a path to it. A path leads nowhere else.
-/
namespace PolicyGate

/-- A step from a node to one of its children. -/
inductive Step where
  | key (name : String)
  | position (i : UInt64)

namespace Step

def segment : Step → List Char
  | .key name => name.toList
  | .position i => Text.decimal i.toNat

/-- A key with a dot in it would be read as more than one segment. -/
def Plain : Step → Prop
  | .key name => '.' ∉ name.toList
  | .position _ => True

/-- The path of some steps. -/
def path (steps : List Step) : String :=
  String.ofList (Text.joinWith '.' (steps.map segment))

/-- What a segment may stand for: the key of this name, or a position. Positions may be written with
zeros in front of them and a plus sign. -/
inductive Spells : List Char → Step → Prop where
  | key (name : String) : Spells name.toList (.key name)
  | position {digits : List Char} {i : UInt64} :
      Text.Numeral digits i.toNat → Spells digits (.position i)
  | signed {digits : List Char} {i : UInt64} :
      Text.Numeral digits i.toNat → Spells ('+' :: digits) (.position i)

theorem spells_segment (step : Step) : Spells step.segment step := by
  cases step with
  | key name => exact .key name
  | position i => exact .position (Text.numeral_decimal i.toNat)

theorem spells_key {segment : List Char} {name : String} :
    Spells segment (.key name) ↔ String.ofList segment = name := by
  constructor
  · intro spelt
    cases spelt
    exact String.ofList_toList
  · rintro rfl
    simpa using Spells.key (String.ofList segment)

theorem segment_plain {step : Step} (plain : step.Plain) : '.' ∉ step.segment := by
  cases step with
  | key name => exact plain
  | position i =>
    intro dot
    cases Nat.isDigit_of_mem_toDigits (by decide) (by decide) dot

/-- A path is cut where its steps were joined. -/
theorem splitOn_path {steps : List Step} (some : steps ≠ []) (plain : ∀ step ∈ steps, step.Plain) :
    Text.splitOn '.' (path steps).toList = steps.map segment := by
  rw [path, String.toList_ofList, Text.splitOn_joinWith (by simpa using some)]
  intro piece member
  obtain ⟨step, inside, rfl⟩ := List.mem_map.mp member
  exact segment_plain (plain step inside)

end Step

namespace Text

theorem position?_eq_some {segment : List Char} {n : Nat} :
    position? segment = some n ↔ ∃ i : UInt64, Step.Spells segment (.position i) ∧ i.toNat = n := by
  rw [position?, natural?_eq_some]
  constructor
  · rintro ⟨small, read⟩
    have same : (UInt64.ofNat n).toNat = n := UInt64.toNat_ofNat_of_lt' (Nat.lt_succ_of_le small)
    refine ⟨UInt64.ofNat n, ?_, same⟩
    rcases read with numeral | ⟨digits, rfl, numeral⟩
    · exact .position (same.symm ▸ numeral)
    · exact .signed (same.symm ▸ numeral)
  · rintro ⟨i, spelt, rfl⟩
    refine ⟨Nat.le_of_lt_succ i.toNat_lt, ?_⟩
    cases spelt with
    | position numeral => exact .inl numeral
    | signed numeral => exact .inr ⟨_, rfl, numeral⟩

end Text

namespace Value

open Step

variable {v w : Value} {step : Step} {steps : List Step} {segment : List Char}

/-- `v.Child step w`: the step leads from `v` to its child `w`. -/
inductive Child : Value → Step → Value → Prop where
  | entry {entries : Document} {name : String} {w : Value} :
      (name, w) ∈ entries → Child (.document entries) (.key name) w
  | item {items : List Value} {i : UInt64} {w : Value} :
      items[i.toNat]? = some w → Child (.array items) (.position i) w

/-- `v.Leads steps w`: the steps lead from `v` to the node `w`. -/
inductive Leads : Value → List Step → Value → Prop where
  | here (v : Value) : Leads v [] v
  | further {v u w : Value} {step : Step} {steps : List Step} :
      v.Child step u → Leads u steps w → Leads v (step :: steps) w

theorem Child.hasDistinctKeys (distinct : v.HasDistinctKeys) (child : v.Child step w) :
    w.HasDistinctKeys := by
  cases child with
  | entry member => exact (hasDistinctKeys_document.mp distinct).2 _ member
  | item found => exact hasDistinctKeys_array.mp distinct w (List.mem_of_getElem? found)

theorem child?_eq_some (distinct : v.HasDistinctKeys) :
    v.child? segment = some w ↔ ∃ step, Spells segment step ∧ v.Child step w := by
  cases v with
  | document entries =>
    have here := (hasDistinctKeys_document.mp distinct).1
    rw [child?, Fields.get?_eq_some here]
    constructor
    · intro member
      exact ⟨.key (String.ofList segment), spells_key.mpr rfl, .entry member⟩
    · rintro ⟨_, spelt, child⟩
      cases child with
      | entry member => rwa [spells_key.mp spelt]
  | array items =>
    rw [child?, Option.bind_eq_some_iff]
    constructor
    · rintro ⟨n, read, found⟩
      obtain ⟨i, spelt, rfl⟩ := Text.position?_eq_some.mp read
      exact ⟨.position i, spelt, .item found⟩
    · rintro ⟨_, spelt, child⟩
      cases child with
      | item found => exact ⟨_, Text.position?_eq_some.mpr ⟨_, spelt, rfl⟩, found⟩
  | _ =>
    constructor
    · intro found
      cases found
    · rintro ⟨_, _, ⟨⟩⟩

/-- Following segments from a node is taking the steps that they spell. -/
theorem foldlM_child?_eq_some {segments : List (List Char)} (distinct : v.HasDistinctKeys) :
    segments.foldlM child? v = some w ↔
      ∃ steps, List.Forall₂ Spells segments steps ∧ v.Leads steps w := by
  induction segments generalizing v with
  | nil =>
    rw [List.foldlM_nil]
    constructor
    · intro same
      cases same
      exact ⟨[], .nil, .here _⟩
    · rintro ⟨_, ⟨⟩, ⟨⟩⟩
      rfl
  | cons segment rest ih =>
    rw [List.foldlM_cons]
    change (v.child? segment).bind _ = some w ↔ _
    rw [Option.bind_eq_some_iff]
    constructor
    · rintro ⟨u, first, later⟩
      obtain ⟨step, spelt, child⟩ := (child?_eq_some distinct).mp first
      obtain ⟨steps, each, leads⟩ := (ih (child.hasDistinctKeys distinct)).mp later
      exact ⟨step :: steps, .cons spelt each, .further child leads⟩
    · rintro ⟨_, each, leads⟩
      cases each with
      | cons spelt each =>
        cases leads with
        | further child leads =>
          exact ⟨_, (child?_eq_some distinct).mpr ⟨_, spelt, child⟩,
            (ih (child.hasDistinctKeys distinct)).mpr ⟨_, each, leads⟩⟩

end Value

namespace Document

open Step

/-- A path leads to the nodes that can be reached by the steps its segments spell, and to no others. So
each node is found under the path of the steps that lead to it, if no key among them has a dot. -/
theorem nodes_addressed {d : Document} (distinct : (Value.document d).HasDistinctKeys) {v : Value} :
    (∀ steps, steps ≠ [] → (∀ step ∈ steps, step.Plain) → (Value.document d).Leads steps v →
      d.resolve? (path steps) = some v) ∧
    ∀ path, d.resolve? path = some v ↔
      ∃ steps, List.Forall₂ Spells (Text.splitOn '.' path.toList) steps ∧
        (Value.document d).Leads steps v := by
  have leads (path : String) : d.resolve? path = some v ↔
      ∃ steps, List.Forall₂ Spells (Text.splitOn '.' path.toList) steps ∧
        (Value.document d).Leads steps v :=
    Value.foldlM_child?_eq_some distinct
  refine ⟨?_, leads⟩
  intro steps some plain reached
  refine (leads _).mpr ⟨steps, ?_, reached⟩
  rw [splitOn_path some plain, List.forall₂_map_left_iff, List.forall₂_same]
  exact fun step _ => spells_segment step

/-- Keys may be empty or look like numbers. -/
def chest : Document :=
  [("drawers", .array [.null, .document [("", .document [("1", .string "keys")])]]), ("0", .null)]

theorem nodes_addressed_chest :
    (Value.document chest).HasDistinctKeys ∧
      chest.resolve? "drawers.1..1" = some (.string "keys") ∧
      (∃ steps, List.Forall₂ Spells (Text.splitOn '.' "drawers.+01..1".toList) steps ∧
        (Value.document chest).Leads steps (.string "keys")) ∧
      ¬ ∃ steps, List.Forall₂ Spells (Text.splitOn '.' "drawers.1..+1".toList) steps ∧
        (Value.document chest).Leads steps (.string "keys") := by
  have distinct : (Value.document chest).HasDistinctKeys := by
    have none := Value.hasDistinctKeys_leaf (v := .null) rfl
    have keys := Value.hasDistinctKeys_leaf (v := .string "keys") rfl
    simp [chest, Value.hasDistinctKeys_document, Value.hasDistinctKeys_array, Fields.Distinct,
      none, keys]
  obtain ⟨addressed, leads⟩ := nodes_addressed distinct (v := .string "keys")
  refine ⟨distinct, ?_, (leads _).mp rfl, fun reached => ?_⟩
  · refine addressed [.key "drawers", .position 1, .key "", .key "1"] (by simp) ?_ ?_
    · simp [Plain]
    · exact .further (.entry List.mem_cons_self) <| .further (.item rfl) <|
        .further (.entry List.mem_cons_self) <| .further (.entry List.mem_cons_self) (.here _)
  · cases (leads _).mpr reached

end Document
end PolicyGate
