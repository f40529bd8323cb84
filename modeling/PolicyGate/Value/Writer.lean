import PolicyGate.Value.Json

/-!
Writing a value part by part, for any format that JSON is written in. The writer of trees collects the
parts into a JSON tree, the writer of text appends them.
-/
namespace PolicyGate

/-- What a format makes of each part of a value. Lists and objects are announced with their length. -/
structure Writer (α σ τ : Type) where
  null : α
  bool : Bool → α
  int : Int → α
  double : Double → α
  string : String → α
  list : Nat → σ
  item : σ → α → σ
  listEnd : σ → α
  object : Nat → τ
  entry : τ → String → α → τ
  objectEnd : τ → α

variable {α σ τ : Type}

namespace Json

mutual

def write (w : Writer α σ τ) : Json → α
  | .null => w.null
  | .bool b => w.bool b
  | .int n => w.int n
  | .double x => w.double x
  | .string s => w.string s
  | .array items => w.listEnd (writeItems w (w.list items.length) items)
  | .object members => w.objectEnd (writeMembers w (w.object members.length) members)

def writeItems (w : Writer α σ τ) (made : σ) : List Json → σ
  | [] => made
  | x :: rest => writeItems w (w.item made (x.write w)) rest

def writeMembers (w : Writer α σ τ) (made : τ) : List (String × Json) → τ
  | [] => made
  | (name, x) :: rest => writeMembers w (w.entry made name (x.write w)) rest

end

end Json

namespace Value

mutual

/-- A date is written as an object of one entry. -/
def write (w : Writer α σ τ) : Value → α
  | .null => w.null
  | .bool b => w.bool b
  | .int n => w.int n.toInt
  | .double x => w.double x
  | .string s => w.string s
  | .date t => w.objectEnd (w.entry (w.object 1) dateKey (w.string t.text))
  | .array items => w.listEnd (writeItems w (w.list items.length) items)
  | .document entries => w.objectEnd (writeEntries w (w.object entries.length) entries)

def writeItems (w : Writer α σ τ) (made : σ) : List Value → σ
  | [] => made
  | v :: rest => writeItems w (w.item made (v.write w)) rest

def writeEntries (w : Writer α σ τ) (made : τ) : List (String × Value) → τ
  | [] => made
  | (name, v) :: rest => writeEntries w (w.entry made name (v.write w)) rest

end

end Value

namespace Writer

/-- The writer of trees. A double that is not finite becomes null, and an entry of a name that is there
already replaces it. -/
def tree : Writer Json (List Json) (Fields Json) where
  null := .null
  bool := .bool
  int := .int
  double x := if x.isFinite then .double x else .null
  string := .string
  list _ := []
  item made x := made ++ [x]
  listEnd := .array
  object _ := []
  entry made name x := made.insert name x
  objectEnd := .object

/-- What is written so far with a comma after it, if anything is. -/
def parted : Option (List Char) → List Char
  | none => []
  | some made => made ++ [',']

/-- The writer of text. -/
def text : Writer (List Char) (Option (List Char)) (Option (List Char)) where
  null := Json.chars .null
  bool b := Json.chars (.bool b)
  int n := Json.chars (.int n)
  double x := Json.chars (.double x)
  string := Json.quote
  list _ := none
  item made x := some (parted made ++ x)
  listEnd made := '[' :: made.getD [] ++ [']']
  object _ := none
  entry made name x := some (parted made ++ Json.quote name ++ ':' :: x)
  objectEnd made := '{' :: made.getD [] ++ ['}']

end Writer

end PolicyGate
