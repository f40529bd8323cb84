import PolicyGate.Value.Basic
import PolicyGate.Text.Numeral
import PolicyGate.Text.Split

/-!
Dotted paths into documents. Each segment is a key of a document or a position in an array.
-/
namespace PolicyGate

/-- A position, written as a numeral below `2 ^ 64`. -/
def Text.position? (s : List Char) : Option Nat := natural? 0xFFFFFFFFFFFFFFFF s

namespace Value

/-- The child that a segment names. -/
def child? (v : Value) (segment : List Char) : Option Value :=
  match v with
  | .document d => Fields.get? d (String.ofList segment)
  | .array items => (Text.position? segment).bind fun i => items[i]?
  | _ => none

end Value

namespace Document

/-- The value that a dotted path leads to. -/
def resolve? (d : Document) (path : String) : Option Value :=
  (Text.splitOn '.' path.toList).foldlM Value.child? (.document d)

/-- A path of one segment leads to the entry of that name. -/
theorem resolve?_plain (d : Document) {field : String} (plain : '.' ∉ field.toList) :
    d.resolve? field = Fields.get? d field := by
  rw [resolve?, Text.splitOn_of_not_mem plain, List.foldlM_cons, Value.child?, String.ofList_toList]
  cases Fields.get? d field <;> rfl

end Document
end PolicyGate
