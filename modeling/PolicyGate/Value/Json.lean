import PolicyGate.Json.Basic
import PolicyGate.Value.Basic

/-!
Values as JSON, and JSON as values. Dates become `{"$date": …}`; all else keeps its kind. There are
two renderings: `toJson` builds a tree, `render` writes the text directly.
-/
namespace PolicyGate.Value

/-- The member name under which dates are shown. -/
def dateKey : String := "$date"

mutual

def toJson : Value → Json
  | .null => .null
  | .bool b => .bool b
  | .int n => .int n.toInt
  | .double x => if x.isFinite then .double x else .null
  | .string s => .string s
  | .date t => .object [(dateKey, .string t.text)]
  | .array items => .array (itemsToJson items)
  | .document entries => .object (entriesToJson [] entries)

def itemsToJson : List Value → List Json
  | [] => []
  | v :: rest => v.toJson :: itemsToJson rest

/-- Inserts the entries into an object. -/
def entriesToJson (made : Fields Json) : List (String × Value) → Fields Json
  | [] => made
  | (name, v) :: rest => entriesToJson (made.insert name v.toJson) rest

end

mutual

/-- The JSON text of a value, written entry by entry. -/
def render : Value → List Char
  | .null => Json.chars .null
  | .bool b => Json.chars (.bool b)
  | .int n => Json.chars (.int n.toInt)
  | .double x => Json.chars (.double x)
  | .string s => Json.quote s
  | .date t => Json.chars (.object [(dateKey, .string t.text)])
  | .array [] => ['[', ']']
  | .array (v :: rest) => '[' :: v.render ++ renderItems rest
  | .document [] => ['{', '}']
  | .document ((name, v) :: rest) => '{' :: Json.quote name ++ ':' :: v.render ++ renderEntries rest

def renderItems : List Value → List Char
  | [] => [']']
  | v :: rest => ',' :: v.render ++ renderItems rest

def renderEntries : List (String × Value) → List Char
  | [] => ['}']
  | (name, v) :: rest => ',' :: Json.quote name ++ ':' :: v.render ++ renderEntries rest

end

def text (v : Value) : String := String.ofList v.render

/-- The value of a JSON integer; one beyond 64 bits with a sign is a double. -/
def ofInteger (n : Int) : Value :=
  if Int64.minValue.toInt ≤ n ∧ n ≤ Int64.maxValue.toInt then .int (Int64.ofInt n)
  else .double (Double.ofInt n)

mutual

/-- The value of a JSON tree. -/
def ofJson : Json → Value
  | .null => .null
  | .bool b => .bool b
  | .int n => ofInteger n
  | .double x => .double x
  | .string s => .string s
  | .array items => .array (itemsOfJson items)
  | .object members => .document (membersOfJson [] members)

def itemsOfJson : List Json → List Value
  | [] => []
  | x :: rest => ofJson x :: itemsOfJson rest

/-- Inserts the members into a document. -/
def membersOfJson (made : Document) : List (String × Json) → Document
  | [] => made
  | (name, x) :: rest => membersOfJson (Fields.insert name (ofJson x) made) rest

end

end PolicyGate.Value

namespace PolicyGate.Document

def toJson (d : Document) : Json := (Value.document d).toJson

def text (d : Document) : String := d.toJson.text

end PolicyGate.Document
