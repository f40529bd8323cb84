import PolicyGate.Json.Scan

/-!
Reading JSON trees from text. Brackets may nest `nestingLimit` deep. A repeated member name keeps its
first place and takes the last value.
-/
namespace PolicyGate.Json

/-- How deep brackets may nest. -/
def nestingLimit : Nat := 127

/-- The items of an array, one of which is to be read next; `read` holds the earlier ones in reverse.
Each round reads at least one character, so the length of the input is fuel enough. -/
def items (value : Input → Outcome Json) : (fuel : Nat) → (read : List Json) → Input → Outcome Json
  | 0, _, s => .error ⟨.endOfList, s, 0⟩
  | fuel + 1, read, s =>
    match value s with
    | .error e => .error e
    | .ok (x, s) =>
      match skipBlanks s with
      | [] => .error ⟨.endOfList, [], 0⟩
      | some ']' :: rest => .ok (.array (x :: read).reverse, rest)
      | some ',' :: rest =>
        match skipBlanks rest with
        | [] => .error ⟨.endOfValue, [], 0⟩
        | some ']' :: rest => .error ⟨.trailingComma, some ']' :: rest, 1⟩
        | rest => items value fuel (x :: read) rest
      | rest => .error ⟨.expectedListCommaOrEnd, rest, 1⟩

def arrayBody (value : Input → Outcome Json) (s : Input) : Outcome Json :=
  match skipBlanks s with
  | [] => .error ⟨.endOfList, [], 0⟩
  | some ']' :: rest => .ok (.array [], rest)
  | rest => items value rest.length [] rest

def colon (s : Input) : Except Fault Input :=
  match skipBlanks s with
  | [] => .error ⟨.endOfObject, [], 0⟩
  | some ':' :: rest => .ok rest
  | rest => .error ⟨.expectedColon, rest, 1⟩

/-- The members of an object, the name of one of which is to be read next. `member` takes what was
made of the earlier ones, the name, and the input after it. -/
def members (member : σ → String → Input → Outcome σ) : (fuel : Nat) → σ → Input → Outcome σ
  | 0, _, s => .error ⟨.endOfObject, s, 0⟩
  | fuel + 1, made, s =>
    match s with
    | [] => .error ⟨.endOfObject, [], 0⟩
    | some '"' :: rest =>
      match stringBody rest with
      | .error e => .error e
      | .ok (name, rest) =>
        match member made name rest with
        | .error e => .error e
        | .ok (made, rest) =>
          match skipBlanks rest with
          | [] => .error ⟨.endOfObject, [], 0⟩
          | some '}' :: rest => .ok (made, rest)
          | some ',' :: rest =>
            match skipBlanks rest with
            | [] => .error ⟨.endOfValue, [], 0⟩
            | some '}' :: rest => .error ⟨.trailingComma, some '}' :: rest, 1⟩
            | rest => members member fuel made rest
          | rest => .error ⟨.expectedObjectCommaOrEnd, rest, 1⟩
    | rest => .error ⟨.keyMustBeString, rest, 1⟩

def objectBody (member : σ → String → Input → Outcome σ) (start : σ) (s : Input) : Outcome σ :=
  match skipBlanks s with
  | [] => .error ⟨.endOfObject, [], 0⟩
  | some '}' :: rest => .ok (start, rest)
  | rest => members member rest.length start rest

/-- Reads the value of a member and inserts it. -/
def insertMember (value : Input → Outcome Json) (made : Fields Json) (name : String) (s : Input) :
    Outcome (Fields Json) :=
  match colon s with
  | .error e => .error e
  | .ok s => (value s).map fun (x, rest) => (made.insert name x, rest)

/-- A value, with `inner` for the values inside its brackets. Without `inner` brackets are refused. -/
def valueWith (inner : Option (Input → Outcome Json)) (s : Input) : Outcome Json :=
  match skipBlanks s with
  | [] => .error ⟨.endOfValue, [], 0⟩
  | some 'n' :: rest => (word ['u', 'l', 'l'] rest).map (.null, ·)
  | some 't' :: rest => (word ['r', 'u', 'e'] rest).map (.bool true, ·)
  | some 'f' :: rest => (word ['a', 'l', 's', 'e'] rest).map (.bool false, ·)
  | some '-' :: rest => number false rest
  | some '"' :: rest => (stringBody rest).map fun (t, rest) => (.string t, rest)
  | some '[' :: rest =>
    match inner with
    | none => .error ⟨.recursionLimit, some '[' :: rest, 1⟩
    | some value => arrayBody value rest
  | some '{' :: rest =>
    match inner with
    | none => .error ⟨.recursionLimit, some '{' :: rest, 1⟩
    | some value =>
      (objectBody (insertMember value) [] rest).map fun (members, rest) => (.object members, rest)
  | c :: rest => if isDigit c then number true (c :: rest) else .error ⟨.expectedValue, c :: rest, 1⟩

/-- A value whose brackets nest at most `levels` deep. -/
def value : (levels : Nat) → Input → Outcome Json
  | 0 => valueWith none
  | levels + 1 => valueWith (some (value levels))

/-- Nothing but blanks may follow. -/
def finish (x : α) (s : Input) : Except Fault α :=
  match skipBlanks s with
  | [] => .ok x
  | rest => .error ⟨.trailingCharacters, rest, 1⟩

/-- The value that a whole input spells. -/
def readInput (s : Input) : Except Fault Json := do
  let (x, rest) ← value nestingLimit s
  finish x rest

/-- The value that a text spells, or the message of what is wrong with the text. -/
def read (s : String) : Except String Json :=
  (readInput (.ofString s)).mapError (Fault.message (.ofString s))

end PolicyGate.Json
