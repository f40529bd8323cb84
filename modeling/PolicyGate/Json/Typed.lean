import PolicyGate.Json.Skim
import PolicyGate.Text.Quoted

/-!
Reading values of a wanted type in place, so that a value of another type is reported where it stands.
A scalar is read before it is reported, a bracket is not.
-/
namespace PolicyGate.Json

/-- How a value is called in a message. -/
def described : Json → String
  | .null => "null"
  | .bool b => if b then "boolean `true`" else "boolean `false`"
  | .int n => "integer `" ++ String.ofList (Text.signedDecimal n) ++ "`"
  | .double x => "floating point `" ++ NumberForm.json.render x ++ "`"
  | .string s => "string " ++ Text.quoted s
  | .array _ => "sequence"
  | .object _ => "map"

/-- A scalar that `accept` takes. -/
def scalar (expected : String) (accept : Json → Option α) (s : Input) : Outcome α :=
  match skipBlanks s with
  | some '[' :: rest => .error ⟨.wrongType "sequence" expected, some '[' :: rest, 0⟩
  | some '{' :: rest => .error ⟨.wrongType "map" expected, some '{' :: rest, 0⟩
  | s =>
    match valueWith none s with
    | .error e => .error e
    | .ok (x, rest) =>
      match accept x with
      | some a => .ok (a, rest)
      | none => .error ⟨.wrongType (described x) expected, rest, 0⟩

def string? : Json → Option String
  | .string s => some s
  | _ => none

def bool? : Json → Option Bool
  | .bool b => some b
  | _ => none

/-- A string, or null for none. -/
def optionalString? : Json → Option (Option String)
  | .null => some none
  | x => (string? x).map some

/-- The end of an array that may hold no more items. -/
def listEnd (s : Input) : Except Fault Input :=
  match skipBlanks s with
  | [] => .error ⟨.endOfList, [], 0⟩
  | some ']' :: rest => .ok rest
  | some ',' :: rest =>
    match skipBlanks rest with
    | some ']' :: rest => .error ⟨.trailingComma, some ']' :: rest, 1⟩
    | rest => .error ⟨.trailingCharacters, rest, 1⟩
  | rest => .error ⟨.trailingCharacters, rest, 1⟩

/-- Goes to the next item of an array, or past its end. -/
def nextItem (isFirst : Bool) (s : Input) : Except Fault (Bool × Input) :=
  match isFirst, skipBlanks s with
  | _, [] => .error ⟨.endOfList, [], 0⟩
  | _, some ']' :: rest => .ok (false, rest)
  | true, rest => .ok (true, rest)
  | false, some ',' :: rest =>
    match skipBlanks rest with
    | [] => .error ⟨.endOfValue, [], 0⟩
    | some ']' :: rest => .error ⟨.trailingComma, some ']' :: rest, 1⟩
    | rest => .ok (true, rest)
  | false, rest => .error ⟨.expectedListCommaOrEnd, rest, 1⟩

/-- The strings of an array whose opening bracket was read, `greatest` of them or fewer. -/
def stringItems : (greatest : Nat) → (isFirst : Bool) → Input → Except Fault (List String × Input)
  | 0, _, s => (listEnd s).map fun rest => ([], rest)
  | greatest + 1, isFirst, s => do
    let (more, rest) ← nextItem isFirst s
    if more then
      let (text, rest) ← scalar "a string" string? rest
      let (texts, rest) ← stringItems greatest false rest
      return (text :: texts, rest)
    else return ([], rest)

/-- Reads the value of a member; what it says is a change of `σ`. -/
abbrev Setter (σ : Type) := Input → Outcome (σ → σ)

/-- The setter that reads a value and assigns it. -/
def assign (read : Input → Outcome α) (put : α → σ → σ) : Setter σ :=
  fun s => (read s).map fun (a, rest) => (put a, rest)

/-- A member name that was given before is reported after what can be passed over. -/
def repeated (name : String) (s : Input) : Fault :=
  match skipBlanks s with
  | some '}' :: rest => ⟨.duplicateField name, rest, 0⟩
  | rest => ⟨.duplicateField name, rest, 0⟩

/-- What has been made of the members of an object, and the names that may not come again. -/
structure Settled (σ : Type) where
  value : σ
  given : List String := []

/-- Reads a member with the setter for its name, or with `other`. -/
def settle (setter? : String → Option (Setter σ)) (other : String → Setter σ) (made : Settled σ)
    (name : String) (s : Input) : Except Fault (Settled σ × Input) :=
  match setter? name with
  | some setter =>
    if made.given.contains name then .error (repeated name s)
    else do
      let (change, rest) ← setter (← colon s)
      return (⟨change made.value, name :: made.given⟩, rest)
  | none => do
    let (change, rest) ← other name (← colon s)
    return (⟨change made.value, made.given⟩, rest)

/-- The setter that passes over a value. -/
def skimmed : Setter σ := fun s => (skim s).map fun rest => (id, rest)

end PolicyGate.Json
