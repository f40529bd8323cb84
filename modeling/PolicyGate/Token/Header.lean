import PolicyGate.Json.Typed
import PolicyGate.Token.Key

/-!
The headers of tokens. A header names the algorithm of the signature and may say more, which must be of
the types laid down for it. It is an object, or a list of all its members in their order.
-/
namespace PolicyGate.Header

open Json (Input Outcome)

/-- Reads a member; what it says is no more than a JSON value. -/
abbrev Reader := Input → Outcome Json

/-- How deep a value in a header may nest. -/
def levels : Nat := Json.nestingLimit - 1

def checked (accepts : Key.Accepts) (x : Json) : Option Json := if accepts x then some x else none

/-- A string or null. -/
def text : Reader := Json.scalar "a string" (checked (Key.orNull Key.text))

/-- A list of strings or null. -/
def texts (s : Input) : Except Json.Fault (Json × Input) := do
  let (x, rest) ← Json.value levels s
  if Key.orNull Key.texts x then return (x, rest)
  else throw ⟨.wrongType (Json.described x) "a sequence", rest, 0⟩

/-- The name of an algorithm, or an object with null under that name alone. -/
def algorithm (s : Input) : Except Json.Fault (Json × Input) :=
  match Json.skipBlanks s with
  | some '{' :: rest =>
    match Json.skipBlanks rest with
    | some '"' :: rest => do
      let (name, rest) ← Json.stringBody rest
      let (_, rest) ← Json.scalar "unit" (checked Key.isNull) (← Json.colon rest)
      match Json.skipBlanks rest with
      | some '}' :: rest => return (.string name, rest)
      | rest => throw ⟨.expectedValue, rest, 1⟩
    | rest => throw ⟨.expectedValue, rest, 1⟩
  | s => Json.scalar "a string" (checked Key.text) s

/-- A key or null. -/
def key (s : Input) : Except Json.Fault (Json × Input) :=
  match Json.skipBlanks s with
  | some '{' :: rest => do
    let (entries, rest) ← Key.entries (levels - 1) rest
    if Key.isKey entries then return (.object entries, rest)
    else throw ⟨.wrongType "map" "a key", rest, 0⟩
  | s => Json.scalar "a key" (checked Key.isNull) s

/-- The members of a header in their order. -/
def members : List (String × Reader) :=
  [("typ", text), ("alg", algorithm), ("cty", text), ("jku", text), ("jwk", key), ("kid", text),
    ("x5u", text), ("x5c", texts), ("x5t", text), ("x5t#S256", text)]

/-- The items of a list whose opening bracket was read, one for each reader. -/
def items : List Reader → (isFirst : Bool) → Input → Except Json.Fault (List Json × Input)
  | [], _, s => (Json.listEnd s).map fun rest => ([], rest)
  | read :: readers, isFirst, s => do
    let (more, rest) ← Json.nextItem isFirst s
    if more then
      let (x, rest) ← read rest
      let (xs, rest) ← items readers false rest
      return (x :: xs, rest)
    else throw ⟨.endOfList, rest, 0⟩

/-- The members that a header gives, by their names. -/
def read (s : Input) : Except Json.Fault (Fields Json) :=
  match Json.skipBlanks s with
  | some '[' :: rest => do
    let (values, rest) ← items (members.map Prod.snd) true rest
    Json.finish ((members.map Prod.fst).zip values) rest
  | s => Json.readKnown (fun name => members.lookup name) s

/-- The algorithm that a header names. -/
def algorithm? (s : Input) : Option String :=
  match read s with
  | .ok made =>
    match made.get? "alg" with
    | some (.string name) => some name
    | _ => none
  | .error _ => none

end PolicyGate.Header
