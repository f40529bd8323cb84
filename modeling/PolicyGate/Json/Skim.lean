import PolicyGate.Json.Reader

/-!
Passing over values that nobody asks for. Their brackets may nest without limit, their numbers may
have any size, and their escapes may spell halves of characters.
-/
namespace PolicyGate.Json

/-- The rest of a string literal that is passed over. `skip` characters belong to an escape. -/
def skimString : (skip : Nat) → Input → Except Fault Input
  | _, [] => .error ⟨.endOfString, [], 0⟩
  | skip + 1, _ :: rest => skimString skip rest
  | 0, some '"' :: rest => .ok rest
  | 0, some '\\' :: rest =>
    match rest with
    | [] => .error ⟨.endOfString, [], 0⟩
    | some 'u' :: digits =>
      match hex4 digits with
      | .error e => .error e
      | .ok _ => skimString 5 rest
    | some c :: _ =>
      if ['"', '\\', '/', 'b', 'f', 'n', 'r', 't'].contains c then skimString 1 rest
      else .error ⟨.invalidEscape, rest, 1⟩
    | none :: _ => .error ⟨.invalidEscape, rest, 1⟩
  | 0, none :: rest => skimString 0 rest
  | 0, some c :: rest =>
    if c.toNat < 0x20 then .error ⟨.controlCharacter, some c :: rest, 0⟩ else skimString 0 rest

def skimExponent (s : Input) : Except Fault Input :=
  let s := match s with
    | some '+' :: rest => rest
    | some '-' :: rest => rest
    | _ => s
  if startsWithDigit s then .ok (skipDigits s) else .error ⟨.invalidNumber, s, 1⟩

def skimExponentOrEnd (s : Input) : Except Fault Input :=
  match s with
  | some 'e' :: rest => skimExponent rest
  | some 'E' :: rest => skimExponent rest
  | _ => .ok s

def skimNumber (s : Input) : Except Fault Input := do
  let rest ← match s with
    | some '0' :: rest => if startsWithDigit rest then .error ⟨.invalidNumber, rest, 1⟩ else .ok rest
    | _ => if startsWithDigit s then .ok (skipDigits s) else .error ⟨.invalidNumber, s, 1⟩
  match rest with
  | some '.' :: rest =>
    if startsWithDigit rest then skimExponentOrEnd (skipDigits rest)
    else .error ⟨.invalidNumber, rest, 1⟩
  | _ => skimExponentOrEnd rest

/-- What a bracket that is open holds. -/
inductive Bracket where
  | list
  | object
deriving DecidableEq

/-- The name of a member and the colon after it. -/
def skimName (s : Input) : Except Fault Input :=
  match skipBlanks s with
  | [] => .error ⟨.endOfObject, [], 0⟩
  | some '"' :: rest => do colon (← skimString 0 rest)
  | rest => .error ⟨.keyMustBeString, rest, 1⟩

/-- Goes on before a value, or after one, within some brackets. -/
def skimWithin : (fuel : Nat) → (before : Bool) → List Bracket → Input → Except Fault Input
  | 0, _, _, s => .error ⟨.endOfValue, s, 0⟩
  | fuel + 1, true, brackets, s =>
    match skipBlanks s with
    | [] => .error ⟨.endOfValue, [], 0⟩
    | some 'n' :: rest => (word ['u', 'l', 'l'] rest).bind (skimWithin fuel false brackets)
    | some 't' :: rest => (word ['r', 'u', 'e'] rest).bind (skimWithin fuel false brackets)
    | some 'f' :: rest => (word ['a', 'l', 's', 'e'] rest).bind (skimWithin fuel false brackets)
    | some '-' :: rest => (skimNumber rest).bind (skimWithin fuel false brackets)
    | some '"' :: rest => (skimString 0 rest).bind (skimWithin fuel false brackets)
    | some '[' :: rest =>
      match skipBlanks rest with
      | [] => .error ⟨.endOfList, [], 0⟩
      | some ']' :: rest => skimWithin fuel false brackets rest
      | rest => skimWithin fuel true (.list :: brackets) rest
    | some '{' :: rest =>
      match skipBlanks rest with
      | [] => .error ⟨.endOfObject, [], 0⟩
      | some '}' :: rest => skimWithin fuel false brackets rest
      | rest => (skimName rest).bind (skimWithin fuel true (.object :: brackets))
    | c :: rest =>
      if isDigit c then (skimNumber (c :: rest)).bind (skimWithin fuel false brackets)
      else .error ⟨.expectedValue, c :: rest, 1⟩
  | _ + 1, false, [], s => .ok s
  | fuel + 1, false, .list :: brackets, s =>
    match skipBlanks s with
    | [] => .error ⟨.endOfList, [], 0⟩
    | some ',' :: rest => skimWithin fuel true (.list :: brackets) rest
    | some ']' :: rest => skimWithin fuel false brackets rest
    | rest => .error ⟨.expectedListCommaOrEnd, rest, 1⟩
  | fuel + 1, false, .object :: brackets, s =>
    match skipBlanks s with
    | [] => .error ⟨.endOfObject, [], 0⟩
    | some ',' :: rest => (skimName rest).bind (skimWithin fuel true (.object :: brackets))
    | some '}' :: rest => skimWithin fuel false brackets rest
    | rest => .error ⟨.expectedObjectCommaOrEnd, rest, 1⟩

/-- Passes over a value. Each round reads at least one character, but the last. -/
def skim (s : Input) : Except Fault Input := skimWithin (s.length + 1) true [] s

/-- Passes over the members of an object but those whose names have readers. These may not be
repeated. -/
def knownMember (reader? : String → Option (Input → Outcome Json)) (made : Fields Json)
    (name : String) (s : Input) : Outcome (Fields Json) :=
  match reader? name with
  | some read =>
    if made.contains name then .error ⟨.duplicateField name, s, 0⟩ else insertMember read made name s
  | none => ((colon s).bind skim).map (made, ·)

/-- The known members of the object that a whole input spells. -/
def readKnown (reader? : String → Option (Input → Outcome Json)) (s : Input) :
    Except Fault (Fields Json) :=
  match skipBlanks s with
  | some '{' :: rest => do
    let (members, rest) ← objectBody (knownMember reader?) [] rest
    finish members rest
  | rest => .error ⟨.expectedValue, rest, 1⟩

end PolicyGate.Json
