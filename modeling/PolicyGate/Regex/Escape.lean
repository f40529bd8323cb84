import PolicyGate.Regex.Flags
import PolicyGate.Text.Split

/-!
Escapes in patterns. An escape stands for a character, a set or an assertion; what it spells may go
on after the letter, mostly between braces.
-/
namespace PolicyGate.Regex

/-- What a smallest piece of a pattern stands for. -/
inductive Piece where
  | char (c : Char)
  | set (s : CharSet)
  | look (k : Look)

/-- The characters with a meaning of their own in patterns. -/
def metaCharacters : List Char :=
  ['\\', '.', '+', '*', '?', '(', ')', '|', '[', ']', '\x7b', '\x7d', '^', '$', '#', '&', '-', '~']

/-- A backslash may stand before any character of ASCII that is no letter, digit or angle. -/
def isEscapable (c : Char) : Bool :=
  metaCharacters.contains c ||
    (c.toNat < 0x80 && !c.isAlphanum && c != '<' && c != '>')

def scalar? (n : Nat) : Option Char := if n.isValidChar then some (Char.ofNat n) else none

/-- A given number of hexadecimal digits. -/
def fixedHex (f : Flags) (n : Nat) : (digits : Nat) → List Char → Option (Nat × List Char)
  | 0, s => some (n, s)
  | _ + 1, [] => none
  | digits + 1, c :: rest => do
    let d ← Text.hexValue? c
    fixedHex f (n * 16 + d) digits (f.skip rest)

/-- The characters up to a closing brace. -/
def untilBrace (f : Flags) : (fuel : Nat) → List Char → Option (List Char × List Char)
  | 0, _ => none
  | fuel + 1, s =>
    match f.skip s with
    | [] => none
    | '\x7d' :: rest => some ([], rest)
    | c :: rest => (untilBrace f fuel rest).map fun (cs, rest) => (c :: cs, rest)

/-- The characters in braces whose opening one was read. -/
def braced (f : Flags) (s : List Char) : Option (List Char × List Char) :=
  untilBrace f (s.length + 1) s

/-- What follows `\x`, `\u` or `\U`. A byte of two digits beyond ASCII stands for no character outside
Unicode mode. -/
def hexEscape (f : Flags) (letter : Char) (s : List Char) : Option (Piece × List Char) :=
  let digits := match letter with | 'x' => 2 | 'u' => 4 | _ => 8
  match f.skip s with
  | '\x7b' :: rest => do
    let (cs, rest) ← braced f rest
    let c ← (Text.hexadecimal? cs).bind scalar?
    some (.char c, rest)
  | s => do
    let (n, rest) ← fixedHex f 0 digits s
    let c ← scalar? n
    if letter = 'x' ∧ !f.unicode ∧ 0x7F < n then none else some (.char c, rest)

/-- A text cut at its first `!=`. -/
def cutUnequal? : List Char → Option (List Char × List Char)
  | [] => none
  | '!' :: '=' :: rest => some ([], rest)
  | c :: rest => (cutUnequal? rest).map fun (a, b) => (c :: a, b)

/-- The set that is named between the braces of `\p`, and whether its complement is meant. -/
def propertySet? (name : List Char) : Option (CharSet × Bool) :=
  let equal (s : CharSet) : CharSet × Bool := (s, false)
  let cutAt (mark : Char) : Option CharSet :=
    (Text.cut? mark name).bind fun (property, value) => valueSet? property value
  match cutUnequal? name with
  | some (property, value) => (valueSet? property value).map fun s => (s, true)
  | none =>
    if name.contains ':' then (cutAt ':').map equal
    else if name.contains '=' then (cutAt '=').map equal
    else (namedSet? name).map equal

def propertyEscape (f : Flags) (negated : Bool) (s : List Char) : Option (Piece × List Char) := do
  let (name, rest) ← match f.skip s with
    | [] => none
    | '\x7b' :: rest => braced f rest
    | c :: rest => if c = '\\' then none else some ([c], f.skip rest)
  let (chars, unequal) ← if f.unicode then propertySet? name else none
  let chars ← f.negate? (negated != unequal) (f.fold chars)
  some (.set chars, rest)

def isBoundaryLetter (c : Char) : Bool := c.isAlpha || c == '-'

/-- What follows `\b`: a kind of boundary in braces, or nothing. Braces that open with anything but
a letter belong to a repetition. -/
def boundaryEscape (f : Flags) (s : List Char) : Option (Piece × List Char) :=
  let plain : Option (Piece × List Char) := some (.look (.boundary f.unicode), s)
  match s with
  | '\x7b' :: rest =>
    match f.skip rest with
    | [] => none
    | c :: _ =>
      if isBoundaryLetter c then do
        let (name, rest) ← braced f rest
        let k ← match String.ofList name with
          | "start" => some (.wordStart f.unicode)
          | "end" => some (.wordEnd f.unicode)
          | "start-half" => some (.noWordBefore f.unicode)
          | "end-half" => some (.noWordAfter f.unicode)
          | _ => none
        some (.look k, rest)
      else plain
  | _ => plain

def escape (f : Flags) : List Char → Option (Piece × List Char)
  | [] => none
  | c :: rest =>
    if isEscapable c then some (.char c, rest)
    else
      match c with
      | 'a' => some (.char '\x07', rest)
      | 'f' => some (.char '\x0c', rest)
      | 't' => some (.char '\t', rest)
      | 'n' => some (.char '\n', rest)
      | 'r' => some (.char '\r', rest)
      | 'v' => some (.char '\x0b', rest)
      | 'A' => some (.look .textStart, rest)
      | 'z' => some (.look .textEnd, rest)
      | 'B' => some (.look (.noBoundary f.unicode), rest)
      | '<' => some (.look (.wordStart f.unicode), rest)
      | '>' => some (.look (.wordEnd f.unicode), rest)
      | 'b' => boundaryEscape f rest
      | 'x' | 'u' | 'U' => hexEscape f c rest
      | 'p' => propertyEscape f false rest
      | 'P' => propertyEscape f true rest
      | 'd' | 's' | 'w' => (perlClass? f c).map fun s => (.set s, rest)
      | 'D' | 'S' | 'W' =>
        ((perlClass? f c.toLower).bind (f.negate? true)).map fun s => (.set s, rest)
      | _ => none

end PolicyGate.Regex
