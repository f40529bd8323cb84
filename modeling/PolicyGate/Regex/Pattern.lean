import PolicyGate.Regex.Bracket
import PolicyGate.Regex.Size
import PolicyGate.Text.Numeral
import PolicyGate.Unicode.Additions

/-!
Reading patterns. A pattern is read from left to right with the groups that are open; a pattern that
is nested too deep or whose automaton would be too large is refused like one that is malformed.
-/
namespace PolicyGate.Regex

/-- A finished piece of a pattern. A change of modes is a piece that cannot be repeated. -/
structure Item where
  regex : Regex
  depth : Nat
  repeatable : Bool := true

namespace Item

def deepest (items : List Item) : Nat := (items.map Item.depth).foldl max 0

/-- Items one after another, given in reverse. -/
def concat : List Item → Item
  | [] => ⟨.empty, 0, true⟩
  | [item] => item
  | items => ⟨.sequence (items.reverse.map Item.regex), deepest items + 1, true⟩

/-- Items to choose from, given in reverse. -/
def alternatives : List Item → Item
  | [item] => item
  | items => ⟨.choice (items.reverse.map Item.regex), deepest items + 1, true⟩

end Item

/-- A group being read: the modes to go back to after it, the branches before the last `|` and the
items since then, both in reverse. -/
structure Group where
  before : Flags
  capturing : Bool
  branches : List Item := []
  items : List Item := []

def Group.add (g : Group) (item : Item) : Group := { g with items := item :: g.items }

def Group.content (g : Group) : Item := Item.alternatives (.concat g.items :: g.branches)

structure Reading where
  flags : Flags
  names : List String
  group : Group
  outer : List Group

namespace Reading

def add (p : Reading) (item : Item) : Reading := { p with group := p.group.add item }

def addPiece (p : Reading) : Piece → Reading
  | .char c => p.add ⟨p.flags.single c, 0, true⟩
  | .set s => p.add ⟨.ofSet s, 0, true⟩
  | .look k => p.add ⟨.look k, 0, true⟩

/-- Repeats the last item. -/
def repeatLast (p : Reading) (least : Nat) (most : Option Nat) : Option Reading :=
  match p.group.items with
  | ⟨r, depth, true⟩ :: rest =>
    let item : Item := ⟨r.replicate least most, depth + 1, true⟩
    some { p with group := { p.group with items := item :: rest } }
  | _ => none

/-- Skips the mark of a repetition that prefers fewer rounds. -/
def skipLazy : List Char → List Char
  | '?' :: rest => rest
  | s => s

/-- Decimal digits below `2 ^ 32`, blanks around them skipped. -/
def count (f : Flags) (s : List Char) : Option (Option Nat × List Char) :=
  let rec digits : (fuel : Nat) → List Char → List Char → List Char × List Char
    | fuel + 1, read, c :: rest =>
      if c.isDigit then digits fuel (c :: read) (f.skip rest) else (read.reverse, c :: rest)
    | _, read, s => (read.reverse, s)
  let s := s.dropWhile Text.isWhiteSpace
  let (ds, rest) := digits s.length [] s
  let blanks := rest.takeWhile Text.isWhiteSpace
  let rest := if blanks.isEmpty then rest else f.skip (rest.drop blanks.length)
  if ds.isEmpty then some (none, rest)
  else
    let n := Nat.ofDigitChars 10 ds 0
    if n ≤ 0xFFFFFFFF then some (some n, rest) else none

/-- What follows the opening brace of a counted repetition. -/
def counted (p : Reading) (s : List Char) : Option (Reading × List Char) := do
  let f := p.flags
  let (least, s) ← count f (f.skip s)
  let least ← least
  let (most, s) ← match s with
    | ',' :: rest =>
      match f.skip rest with
      | '\x7d' :: rest => some (none, '\x7d' :: rest)
      | rest => do
        let (most, rest) ← count f rest
        let most ← most
        if least ≤ most then some (some most, rest) else none
    | s => some (some least, s)
  match s with
  | '\x7d' :: rest =>
    let p ← p.repeatLast least most
    some (p, skipLazy (f.skip rest))
  | _ => none

/-- The name of a group up to `>`. -/
def groupName (names : List String) (s : List Char) : Option (String × List Char) := do
  let (name, rest) ← Text.cut? '>' s
  let isLetter (c : Char) : Bool := c == '_' || Unicode.Additions.alphabetic.contains c.toNat
  let isMember (c : Char) : Bool :=
    isLetter c || c == '.' || c == '[' || c == ']' || Unicode.Additions.numeric.contains c.toNat
  let wellFormed : Bool := match name with
    | [] => false
    | c :: cs => isLetter c && cs.all isMember
  let name := String.ofList name
  if wellFormed ∧ ¬ names.contains name then some (name, rest) else none

/-- Letters of modes up to `:` or `)`, each with whether it comes before a hyphen. No letter and no
second hyphen may be repeated, and one letter at least must follow the hyphen. -/
def modes (read : List (Char × Bool)) (negated dangling : Bool) : List Char →
    Option (List (Char × Bool) × List Char)
  | [] => none
  | c :: rest =>
    if c = ':' ∨ c = ')' then if dangling then none else some (read.reverse, c :: rest)
    else if c = '-' then if negated then none else modes read true true rest
    else if Flags.letters.contains c ∧ (read.lookup c).isNone then
      modes ((c, !negated) :: read) negated false rest
    else none

def openGroup (p : Reading) (inner : Flags) (capturing : Bool) : Reading :=
  { p with flags := inner, group := { before := p.flags, capturing }, outer := p.group :: p.outer }

/-- A change of modes for the rest of the group, or a group with modes of its own. -/
def modal (p : Reading) (s : List Char) : Option (Reading × List Char) := do
  let (changes, s) ← modes [] false false s
  let flags := changes.foldl (fun f (letter, on) => f.set letter on) p.flags
  match s with
  | ')' :: rest =>
    if changes.isEmpty then none
    else some ({ p with flags }.add ⟨.empty, 0, false⟩, rest)
  | ':' :: rest => some (p.openGroup flags false, rest)
  | _ => none

/-- What follows an opening parenthesis. There are no assertions about the text around a match. -/
def opening (p : Reading) (s : List Char) : Option (Reading × List Char) :=
  let named (rest : List Char) : Option (Reading × List Char) := do
    let (name, rest) ← groupName p.names rest
    some ({ p with names := name :: p.names }.openGroup p.flags true, rest)
  match p.flags.skip s with
  | '?' :: '=' :: _ => none
  | '?' :: '!' :: _ => none
  | '?' :: '<' :: '=' :: _ => none
  | '?' :: '<' :: '!' :: _ => none
  | '?' :: 'P' :: '<' :: rest => named rest
  | '?' :: '<' :: rest => named rest
  | '?' :: rest => p.modal rest
  | rest => some (p.openGroup p.flags true, rest)

def closing (p : Reading) : Option Reading :=
  match p.outer with
  | [] => none
  | parent :: outer =>
    let content := p.group.content
    let regex := if p.group.capturing then .group content.regex else content.regex
    some { p with flags := p.group.before, group := parent.add ⟨regex, content.depth + 1, true⟩, outer }

def branch (p : Reading) : Reading :=
  { p with group := { p.group with branches := .concat p.group.items :: p.group.branches, items := [] } }

/-- Reads what starts with `c`. -/
def step (p : Reading) (c : Char) (rest : List Char) : Option (Reading × List Char) :=
  match c with
  | '(' => p.opening rest
  | ')' => p.closing.map fun p => (p, rest)
  | '|' => some (p.branch, rest)
  | '[' => do
    let (x, rest) ← Bracket.read p.flags rest
    some (p.add ⟨.ofSet x.chars, x.depth, true⟩, rest)
  | '?' => (p.repeatLast 0 (some 1)).map fun p => (p, skipLazy rest)
  | '*' => (p.repeatLast 0 none).map fun p => (p, skipLazy rest)
  | '+' => (p.repeatLast 1 none).map fun p => (p, skipLazy rest)
  | '\x7b' => p.counted rest
  | '\\' => (escape p.flags rest).map fun (piece, rest) => (p.addPiece piece, rest)
  | '.' => p.flags.dot?.map fun r => (p.add ⟨r, 0, true⟩, rest)
  | '^' => some (p.addPiece (.look p.flags.caret), rest)
  | '$' => some (p.addPiece (.look p.flags.dollar), rest)
  | c => some (p.addPiece (.char c), rest)

/-- Each round reads at least one character. -/
def run : (fuel : Nat) → Reading → List Char → Option Reading
  | 0, _, _ => none
  | fuel + 1, p, s =>
    match p.flags.skip s with
    | [] => some p
    | c :: rest => do
      let (p, rest) ← p.step c rest
      run fuel p rest

end Reading

def nestingLimit : Nat := 250

/-- The expression that a pattern stands for under some modes, if it stands for one. -/
def compile? (flags : Flags) (pattern : String) : Option Regex := do
  let s := pattern.toList
  let p ← Reading.run (s.length + 1) ⟨flags, [], { before := flags, capturing := false }, []⟩ s
  let whole := p.group.content
  if p.outer.isEmpty ∧ whole.depth ≤ nestingLimit ∧ whole.regex.fits then some whole.regex else none

end PolicyGate.Regex
