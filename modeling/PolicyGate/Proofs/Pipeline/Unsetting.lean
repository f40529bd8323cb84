import PolicyGate.Proofs.Pipeline.Reshaping

/-!
What is left of a document when fields are unset. The names are keys of the document itself. A dotted
name is taken for a key as well, so what it leads to as a path is still there, unless the first segment
is named too.
-/
namespace PolicyGate

namespace Document

/-- The first segment of a path, a key of the document itself. -/
def root (path : String) : String := String.ofList (path.toList.takeWhile (· ≠ '.'))

theorem root_of_plain {name : String} (plain : '.' ∉ name.toList) : root name = name := by
  obtain ⟨rest, pieces⟩ := Text.splitOn_eq_cons '.' name.toList
  rw [Text.splitOn_of_not_mem plain] at pieces
  rw [root, ← (List.cons.inj pieces).1, String.ofList_toList]

/-- A path sees nothing of a document but the entry of its first segment. -/
theorem resolve?_eq_bind (path : String) : ∃ further : Value → Option Value,
    ∀ d : Document, d.resolve? path = (Fields.get? d (root path)).bind further := by
  obtain ⟨rest, pieces⟩ := Text.splitOn_eq_cons '.' path.toList
  refine ⟨fun v => rest.foldlM Value.child? v, fun d => ?_⟩
  rw [resolve?, pieces, List.foldlM_cons]
  rfl

end Document

namespace Pipeline

open Outcomes

variable {docs rows : List Document} {names : List String} {operand : Value}

def unset (operand : Value) : Document := [("$unset", operand)]

/-- The operand names fields: one by itself, or any number in an array. -/
inductive Names : Value → List String → Prop where
  | one (field : String) : Names (.string field) [field]
  | several (fields : List String) : Names (.array (fields.map .string)) fields

/-- The entries of a document but for those with one of the names. -/
def without (names : List String) (d : Document) : Document :=
  d.filter fun entry => entry.1 ∉ names

theorem unsetFields_ok : unsetFields operand = .ok names ↔ Names operand names := by
  cases operand with
  | string field =>
    constructor
    · intro read
      cases read
      exact .one field
    · intro named
      cases named
      rfl
  | array items =>
    have each : unsetFields (.array items) = .ok names ↔ items = names.map .string := by
      rw [← List.forall₂_eq_eq_eq, List.forall₂_map_right_iff, unsetFields, mapM_ok]
      constructor
      · intro read
        refine read.imp fun v name same => ?_
        cases v <;> cases same
        rfl
      · intro read
        refine read.imp fun v name same => ?_
        rw [same]
    rw [each]
    constructor
    · rintro rfl
      exact .several names
    · intro named
      cases named
      rfl
  | _ => exact ⟨nofun, nofun⟩

theorem foldl_erase_eq (names : List String) {d : Document} (distinct : Fields.Distinct d) :
    names.foldl Fields.erase d = without names d := by
  induction names generalizing d with
  | nil => simp [without]
  | cons name rest ih =>
    rw [List.foldl_cons, ih (distinct.erase name), Fields.erase_eq_filter distinct]
    simp [without, List.filter_filter, Bool.and_comm]

theorem resolve?_without (names : List String) (d : Document) (path : String) :
    (without names d).resolve? path =
      if Document.root path ∈ names then none else d.resolve? path := by
  obtain ⟨further, resolved⟩ := Document.resolve?_eq_bind path
  have left := Fields.get?_filter_names (fun name => name ∉ names) d (Document.root path)
  rw [resolved, resolved, without, left]
  by_cases named : Document.root path ∈ names <;> simp [named]

theorem applyStage_unset (each : ∀ d ∈ docs, Fields.Distinct d) :
    applyStage docs (unset operand) = .ok rows ↔
      ∃ names, Names operand names ∧ rows = docs.map (without names) := by
  have erased (names : List String) :
      docs.map (fun d => names.foldl Fields.erase d) = docs.map (without names) :=
    List.map_congr_left fun d member => foldl_erase_eq names (each d member)
  refine bind_ok.trans (exists_congr fun names => ?_)
  rw [unsetFields_ok, erased, Except.ok.injEq, eq_comm]

/-- What an `$unset` leaves of documents: all entries but those of the names, as they are and in their
order. A path through a named field leads nowhere then, and any other path leads where it did. So a name
that is a path below a field resolves to what it did before, unless the field is named as well. -/
theorem unset_exact (each : ∀ d ∈ docs, Fields.Distinct d) :
    (applyStage docs (unset operand) = .ok rows ↔
        ∃ names, Names operand names ∧ rows = docs.map (without names)) ∧
      ∀ names (d : Document),
        (∀ path, (without names d).resolve? path =
          if Document.root path ∈ names then none else d.resolve? path) ∧
        (∀ name ∈ names, '.' ∉ name.toList → (without names d).resolve? name = none) ∧
        ((∀ name ∈ names, (without names d).resolve? name = none) ↔
          ∀ name ∈ names, Document.root name ∈ names ∨ d.resolve? name = none) := by
  refine ⟨applyStage_unset each, fun names d => ⟨resolve?_without names d, ?_, ?_⟩⟩
  · intro name member plain
    have named : Document.root name ∈ names := by rwa [Document.root_of_plain plain]
    exact (resolve?_without names d name).trans (if_pos named)
  · refine forall₂_congr fun name _ => ?_
    rw [resolve?_without]
    by_cases named : Document.root name ∈ names <;> simp [named]

def lodger : Document :=
  [("name", .string "Bea"), ("address", .document [("city", .string "Hilo")]), ("city", .null)]

/-- `address.city` is still there: the document has no such key. -/
theorem unset_exact_lodger :
    (∀ d ∈ [lodger], Fields.Distinct d) ∧
      applyStage [lodger] (unset (.array [.string "city", .string "address.city"])) =
        .ok [[("name", .string "Bea"), ("address", .document [("city", .string "Hilo")])]] ∧
      (without ["city", "address.city"] lodger).resolve? "city" = none ∧
      (without ["city", "address.city"] lodger).resolve? "address.city" =
        lodger.resolve? "address.city" := by
  have each : ∀ d ∈ [lodger], Fields.Distinct d := by
    unfold Fields.Distinct
    decide
  have laws (rows : List Document) :=
    @unset_exact [lodger] rows (.array [.string "city", .string "address.city"]) each
  have left : [[("name", .string "Bea"), ("address", .document [("city", .string "Hilo")])]] =
      [lodger].map (without ["city", "address.city"]) := by simp [without, lodger]
  refine ⟨each, (laws _).1.mpr ⟨_, .several ["city", "address.city"], left⟩, ?_, ?_⟩
  · exact ((laws []).2 _ lodger).2.1 "city" List.mem_cons_self (by decide)
  · rw [((laws []).2 _ lodger).1]
    exact if_neg (by decide)

/-- A name that is a path is neither refused nor unset. -/
theorem named_path_stays :
    ¬ ∀ (operand : Value) (names : List String) (docs rows : List Document), Names operand names →
      (∀ d ∈ docs, Fields.Distinct d) → applyStage docs (unset operand) = .ok rows →
        ∀ row ∈ rows, ∀ name ∈ names, row.resolve? name = none := by
  intro law
  have gone := law (.string "address.city") ["address.city"] [lodger] [lodger] (.one _)
    (by unfold Fields.Distinct; decide) rfl lodger List.mem_cons_self _ List.mem_cons_self
  have there : (lodger.resolve? "address.city").isSome = true := by decide
  rw [gone] at there
  cases there

end Pipeline
end PolicyGate
