import PolicyGate.Regex.Escape

/-!
Bracketed classes of patterns: unions of characters, ranges, named classes and nested brackets, with
the operations `&&`, `--` and `~~` between unions, taken from left to right.
-/
namespace PolicyGate.Regex

inductive SetOp where
  | intersection
  | difference
  | symmetricDifference

def SetOp.apply : SetOp → CharSet → CharSet → CharSet
  | .intersection => CharSet.inter
  | .difference => CharSet.difference
  | .symmetricDifference => CharSet.symmetricDifference

/-- A set, and how deep it is nested. -/
structure Operand where
  chars : CharSet
  depth : Nat

/-- A bracket being read: the left side of the last operation, and the members since then in
reverse. -/
structure Bracket where
  negated : Bool
  pending : Option (SetOp × Operand) := none
  members : List Operand := []

namespace Bracket

def add (b : Bracket) (x : Operand) : Bracket := { b with members := x :: b.members }

def addSet (b : Bracket) (s : CharSet) : Bracket := b.add ⟨s, 0⟩

def union (b : Bracket) : Operand :=
  match b.members with
  | [] => ⟨[], 0⟩
  | [x] => x
  | xs => ⟨xs.flatMap Operand.chars, (xs.map Operand.depth).foldl max 0 + 1⟩

/-- What was read so far. Case is folded before an operation is applied. -/
def operand (f : Flags) (b : Bracket) : Operand :=
  let right := b.union
  match b.pending with
  | none => right
  | some (op, left) => ⟨op.apply (f.fold left.chars) (f.fold right.chars), max left.depth right.depth + 1⟩

def startOp (f : Flags) (b : Bracket) (op : SetOp) : Bracket :=
  { b with pending := some (op, b.operand f), members := [] }

/-- The finished bracket. Case is folded before the set is negated. -/
def close? (f : Flags) (b : Bracket) : Option Operand := do
  let x := b.operand f
  let chars ← f.negate? b.negated (f.fold x.chars)
  some ⟨chars, x.depth + 1⟩

/-- What follows an opening bracket: `^`, then hyphens, or else a closing bracket, that stand for
themselves. Something must be left after them. -/
def opened (f : Flags) (s : List Char) : Option (Bracket × List Char) :=
  let (negated, s) := match f.skip s with
    | '^' :: rest => (true, f.skip rest)
    | s => (false, s)
  let rec hyphens (b : Bracket) : (fuel : Nat) → List Char → Bracket × List Char
    | fuel + 1, '-' :: rest => hyphens (b.addSet (.single 0x2D)) fuel (f.skip rest)
    | _, s => (b, s)
  let (b, s) := hyphens { negated } s.length s
  let (b, s) := match b.members, s with
    | [], ']' :: rest => (b.addSet (.single 0x5D), f.skip rest)
    | _, s => (b, s)
  if s.isEmpty then none else some (b, s)

/-- A class `[:name:]`, or `[:^name:]`, whose opening bracket was read. -/
def named? (f : Flags) (s : List Char) : Option (CharSet × Bool × List Char) :=
  match s with
  | ':' :: rest =>
    let (negated, rest) := match rest with
      | '^' :: rest => (true, rest)
      | rest => (false, rest)
    match Text.cut? ':' rest with
    | some (name, ']' :: rest) =>
      (asciiClasses.lookup (String.ofList name)).map fun s => (f.fold s, negated, rest)
    | _ => none
  | _ => none

/-- A member that is no bracket, or an end of a range. -/
def piece (f : Flags) : List Char → Option (Piece × List Char)
  | [] => none
  | '\\' :: rest => escape f rest
  | c :: rest => some (.char c, rest)

/-- A character that may stand in a bracket: outside Unicode mode one of ASCII. -/
def char? (f : Flags) : Piece → Option Char
  | .char c => if f.unicode || c.toNat < 0x80 then some c else none
  | _ => none

/-- Skips blanks, and the mark of a comment among them. -/
def peek (f : Flags) (s : List Char) : List Char :=
  if f.verbose then
    match s.dropWhile Text.isWhiteSpace with
    | '#' :: rest => rest.dropWhile Text.isWhiteSpace
    | s => s
  else s

/-- A member or a range of characters. A hyphen before `]` or another hyphen makes no range. -/
def range (f : Flags) (s : List Char) : Option (CharSet × List Char) := do
  let (first, s) ← piece f s
  let alone : Option (CharSet × List Char) :=
    match first with
    | .set chars => some (chars, f.skip s)
    | _ => (char? f first).map fun c => (.single c.toNat, f.skip s)
  match f.skip s with
  | [] => none
  | '-' :: rest =>
    match peek f rest with
    | ']' :: _ => alone
    | '-' :: _ => alone
    | _ => do
      let (last, rest) ← piece f (f.skip rest)
      let low ← char? f first
      let high ← char? f last
      if low ≤ high then some ([(low.toNat, high.toNat)], rest) else none
  | _ => alone

/-- Reads a bracket to its end; `outer` are the brackets around it. -/
def readRest (f : Flags) : (fuel : Nat) → Bracket → (outer : List Bracket) → List Char →
    Option (Operand × List Char)
  | 0, _, _, _ => none
  | fuel + 1, b, outer, s =>
    match f.skip s with
    | [] => none
    | '[' :: rest =>
      match named? f rest with
      | some (chars, negated, rest) => do
        let chars ← f.negate? negated chars
        readRest f fuel (b.addSet chars) outer rest
      | none => do
        let (inner, rest) ← opened f rest
        readRest f fuel inner (b :: outer) rest
    | ']' :: rest => do
      let x ← b.close? f
      match outer with
      | [] => some (x, rest)
      | parent :: outer => readRest f fuel (parent.add x) outer rest
    | '&' :: '&' :: rest => readRest f fuel (b.startOp f .intersection) outer rest
    | '-' :: '-' :: rest => readRest f fuel (b.startOp f .difference) outer rest
    | '~' :: '~' :: rest => readRest f fuel (b.startOp f .symmetricDifference) outer rest
    | s => do
      let (chars, rest) ← range f s
      readRest f fuel (b.addSet chars) outer rest

/-- The bracket whose opening was read. -/
def read (f : Flags) (s : List Char) : Option (Operand × List Char) := do
  let (b, rest) ← opened f s
  readRest f (rest.length + 1) b [] rest

end Bracket
end PolicyGate.Regex
