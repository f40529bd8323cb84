import PolicyGate.Grants.Record
import PolicyGate.Proofs.Outcomes
import PolicyGate.Proofs.Value.Rendering

/-!
A predicate may be stored as a document or as its JSON text. Where the text can hold all of it, the two
make the same grant.
-/
namespace PolicyGate.Grant

theorem decodePredicate_text (collection : String) {p : Document} (plain : (Value.document p).Plain)
    (distinct : (Value.document p).HasDistinctKeys)
    (shallow : (Value.document p).depth ≤ Json.nestingLimit) :
    decodePredicate collection (Value.text (.document p)) = .ok p := by
  obtain ⟨x, read, same⟩ := Outcomes.map_ok.mp (Value.read_text plain distinct shallow)
  rw [decodePredicate, read]
  dsimp only
  rw [same]

theorem predicateOf_insert (collection : String) {field : String}
    (holds : field = "predicate" ∨ field = "pre") (record : Document) {text : String} {p : Document}
    (decoded : decodePredicate collection text = .ok p) :
    predicateOf collection (Fields.insert field (.string text) record) =
      predicateOf collection (Fields.insert field (.document p) record) := by
  have apart : ("pre" : String) ≠ "predicate" := by decide
  unfold predicateOf
  simp only [Fields.get?_insert]
  rcases holds with rfl | rfl
  · exact decoded
  · rw [if_neg apart, if_neg apart, if_pos rfl, if_pos rfl]
    cases Fields.get? record "predicate" with
    | some v => rfl
    | none => exact decoded

/-- Besides the predicate, a grant is made of the table, the package and the limit. -/
theorem ofDocument_congr {collection : String} {d e : Document}
    (same : ∀ field ∈ ["table", "package", "rowLimit", "limit"],
      Fields.get? d field = Fields.get? e field)
    (predicate : predicateOf collection d = predicateOf collection e) :
    ofDocument collection d = ofDocument collection e := by
  have table := same "table" (by decide)
  have package := same "package" (by decide)
  have rowLimit := same "rowLimit" (by decide)
  have limit := same "limit" (by decide)
  unfold ofDocument rowLimitOf Document.requireString
  rw [table, package, predicate, rowLimit, limit]

/-- The text of a predicate decodes to the predicate, and a record that holds the text makes the same
grant, or has the same fault, as one that holds the predicate itself. This is for predicates without dates
and doubles whose brackets nest as deep as they may in a text; both ways of writing them give one text. -/
theorem predicate_forms_agree (collection : String) {p : Document}
    (plain : (Value.document p).Plain) (distinct : (Value.document p).HasDistinctKeys)
    (shallow : (Value.document p).depth ≤ 127) :
    decodePredicate collection (Value.text (.document p)) = .ok p ∧
      Document.text p = Value.text (.document p) ∧
      ∀ (record : Document) (field : String), field = "predicate" ∨ field = "pre" →
        ofDocument collection (Fields.insert field (.string (Value.text (.document p))) record) =
          ofDocument collection (Fields.insert field (.document p) record) := by
  have decoded := decodePredicate_text collection plain distinct shallow
  refine ⟨decoded, ?_, ?_⟩
  · rw [Document.text, Document.toJson, Json.text, Value.text, Value.render_eq_chars distinct]
  · intro record field holds
    apply ofDocument_congr
    · intro other listed
      have apart : field ≠ other := by
        rcases holds with rfl | rfl <;> rintro rfl <;> revert listed <;> decide
      rw [Fields.get?_insert, Fields.get?_insert, if_neg apart, if_neg apart]
    · exact predicateOf_insert collection holds record decoded

/-- Keys with a quote, a backslash and a control character, beside empty containers. -/
def awkwardPredicate : Document :=
  [("a\"b\\c\x01", .array [.int Int64.minValue, .array [], .document [], .null]),
    ("név 😀", .document [("$in", .array [.string "\n\x7f/", .bool true])])]

def silverRecord : Document :=
  [("table", .string "people"), ("package", .string "silver"), ("limit", .int 2)]

theorem predicate_forms_agree_awkward :
    (Value.document awkwardPredicate).Plain ∧ (Value.document awkwardPredicate).HasDistinctKeys ∧
      (Value.document awkwardPredicate).depth ≤ 127 ∧
      ofDocument "security" (Fields.insert "pre"
          (.string (Value.text (.document awkwardPredicate))) silverRecord) =
        .ok ⟨"people", "silver", awkwardPredicate, some 2⟩ := by
  have plain : (Value.document awkwardPredicate).Plain := by
    have null : Value.null.Plain := Value.plain_leaf rfl nofun nofun
    have bool (b : Bool) : (Value.bool b).Plain := Value.plain_leaf rfl nofun nofun
    have int (n : Int64) : (Value.int n).Plain := Value.plain_leaf rfl nofun nofun
    have string (s : String) : (Value.string s).Plain := Value.plain_leaf rfl nofun nofun
    simp [awkwardPredicate, or_imp, forall_and, Value.plain_document, Value.plain_array, null, bool,
      int, string]
  have distinct : (Value.document awkwardPredicate).HasDistinctKeys := by
    have null : Value.null.HasDistinctKeys := Value.hasDistinctKeys_leaf rfl
    have bool (b : Bool) : (Value.bool b).HasDistinctKeys := Value.hasDistinctKeys_leaf rfl
    have int (n : Int64) : (Value.int n).HasDistinctKeys := Value.hasDistinctKeys_leaf rfl
    have string (s : String) : (Value.string s).HasDistinctKeys := Value.hasDistinctKeys_leaf rfl
    simp [awkwardPredicate, Value.hasDistinctKeys_document, Value.hasDistinctKeys_array,
      Fields.Distinct, null, bool, int, string]
  have shallow : (Value.document awkwardPredicate).depth ≤ 127 := by decide +kernel
  obtain ⟨_, _, same⟩ := predicate_forms_agree "security" plain distinct shallow
  refine ⟨plain, distinct, shallow, ?_⟩
  rw [same silverRecord "pre" (.inr rfl)]
  rfl

end PolicyGate.Grant
