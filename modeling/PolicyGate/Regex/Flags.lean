import PolicyGate.Regex.Basic
import PolicyGate.Text.Blank
import PolicyGate.Unicode.Age
import PolicyGate.Unicode.Break
import PolicyGate.Unicode.CaseFolding

/-!
The modes of a pattern, and the character sets that are named in patterns.
-/
namespace PolicyGate.Regex

/-- The modes in force at a place of a pattern. -/
structure Flags where
  ignoreCase : Bool := false
  multiLine : Bool := false
  dotAll : Bool := false
  unicode : Bool := true
  crlf : Bool := false
  /-- Blanks and comments in the pattern are skipped. -/
  verbose : Bool := false
deriving DecidableEq

namespace Flags

/-- The letters of the modes. `U` changes which match is preferred, not whether there is one. -/
def letters : List Char := ['i', 'm', 's', 'U', 'u', 'R', 'x']

def set (f : Flags) (letter : Char) (on : Bool) : Flags :=
  match letter with
  | 'i' => { f with ignoreCase := on }
  | 'm' => { f with multiLine := on }
  | 's' => { f with dotAll := on }
  | 'u' => { f with unicode := on }
  | 'R' => { f with crlf := on }
  | 'x' => { f with verbose := on }
  | _ => f

/-- Skips blanks and comments from `#` to the end of the line. -/
def skipComments (inComment : Bool) : List Char → List Char
  | [] => []
  | c :: rest =>
    if inComment then skipComments (c != '\n') rest
    else if Text.isWhiteSpace c then skipComments false rest
    else if c = '#' then skipComments true rest
    else c :: rest

def skip (f : Flags) (s : List Char) : List Char := if f.verbose then skipComments false s else s

/-- Closes a set under case if case is ignored. -/
def fold (f : Flags) (s : CharSet) : CharSet :=
  if !f.ignoreCase then s
  else if f.unicode then Unicode.closeUnderFolding s
  else
    s ++ (CharSet.inter s [(0x41, 0x5A)]).map (fun (a, b) => (a + 32, b + 32)) ++
      (CharSet.inter s [(0x61, 0x7A)]).map fun (a, b) => (a - 32, b - 32)

/-- Outside Unicode mode no set may go beyond ASCII, so none may be complemented. -/
def negate? (f : Flags) (negated : Bool) (s : CharSet) : Option CharSet :=
  if !negated then some s else if f.unicode then some s.complement else none

/-- A character of the pattern as an expression. -/
def single (f : Flags) (c : Char) : Regex :=
  let n := c.toNat
  if f.ignoreCase && (if f.unicode then Unicode.folds n else c.isAlpha) then
    .ofSet (f.fold (.single n))
  else .text [c]

/-- Any character but the ends of lines. There is no such set of bytes outside Unicode mode. -/
def dot? (f : Flags) : Option Regex :=
  if !f.unicode then none
  else if f.dotAll then some (.ofSet .every)
  else if f.crlf then some (.ofSet (CharSet.complement [(0x0A, 0x0A), (0x0D, 0x0D)]))
  else some (.ofSet (CharSet.complement [(0x0A, 0x0A)]))

def caret (f : Flags) : Look :=
  if !f.multiLine then .textStart else if f.crlf then .anyLineStart else .lineStart

def dollar (f : Flags) : Look :=
  if !f.multiLine then .textEnd else if f.crlf then .anyLineEnd else .lineEnd

end Flags

/-- The classes written `[:name:]`. -/
def asciiClasses : List (String × CharSet) :=
  [("alnum", [(0x30, 0x39), (0x41, 0x5A), (0x61, 0x7A)]),
    ("alpha", [(0x41, 0x5A), (0x61, 0x7A)]),
    ("ascii", [(0, 0x7F)]),
    ("blank", [(0x09, 0x09), (0x20, 0x20)]),
    ("cntrl", [(0, 0x1F), (0x7F, 0x7F)]),
    ("digit", [(0x30, 0x39)]),
    ("graph", [(0x21, 0x7E)]),
    ("lower", [(0x61, 0x7A)]),
    ("print", [(0x20, 0x7E)]),
    ("punct", [(0x21, 0x2F), (0x3A, 0x40), (0x5B, 0x60), (0x7B, 0x7E)]),
    ("space", [(0x09, 0x0D), (0x20, 0x20)]),
    ("upper", [(0x41, 0x5A)]),
    ("word", [(0x30, 0x39), (0x41, 0x5A), (0x5F, 0x5F), (0x61, 0x7A)]),
    ("xdigit", [(0x30, 0x39), (0x41, 0x46), (0x61, 0x66)])]

/-- Digits, white space and word characters, in Unicode and in ASCII. -/
def perlClass? (f : Flags) (letter : Char) : Option CharSet :=
  match letter with
  | 'd' => some (if f.unicode then Unicode.decimalNumber else [(0x30, 0x39)])
  | 's' => some (if f.unicode then Unicode.whiteSpace else [(0x09, 0x0D), (0x20, 0x20)])
  | 'w' =>
    some (if f.unicode then Unicode.wordCharacter
      else [(0x30, 0x39), (0x41, 0x5A), (0x5F, 0x5F), (0x61, 0x7A)])
  | _ => none

/-- A name of a property or value as it is looked up: ASCII in lower case, without blanks, `_`, `-`
and a leading `is`. -/
def looseName (name : List Char) : String :=
  let lower := name.map Char.toLower
  let plain (s : List Char) : List Char :=
    s.filter fun c => c.toNat < 0x80 && c != ' ' && c != '_' && c != '-'
  match lower with
  | 'i' :: 's' :: rest =>
    let name := plain rest
    String.ofList (if name = ['c'] then ['i', 's', 'c'] else name)
  | _ => String.ofList (plain lower)

def generalCategory? (name : String) : Option CharSet :=
  match name with
  | "any" => some .every
  | "ascii" => some [(0, 0x7F)]
  | "assigned" => (Unicode.category? "cn").map CharSet.complement
  | _ => Unicode.category? name

/-- Names that stand for a category or script although a property has them too. -/
def ambiguousNames : List String := ["cf", "sc", "lc"]

/-- The set that a bare name stands for: a property, a category or a script. -/
def namedSet? (name : List Char) : Option CharSet :=
  let name := looseName name
  (if ambiguousNames.contains name then none else Unicode.property? name).or
    ((generalCategory? name).or (Unicode.script? name))

/-- The set of characters with a value of a property. -/
def valueSet? (property value : List Char) : Option CharSet :=
  let value := looseName value
  match looseName property with
  | "gc" | "generalcategory" => generalCategory? value
  | "sc" | "script" => Unicode.script? value
  | "scx" | "scriptextensions" => Unicode.scriptExtension? value
  | "age" => Unicode.age? value
  | "gcb" | "graphemeclusterbreak" => Unicode.Grapheme.class? value
  | "wb" | "wordbreak" => Unicode.Word.class? value
  | "sb" | "sentencebreak" => Unicode.Sentence.class? value
  | _ => none

end PolicyGate.Regex
