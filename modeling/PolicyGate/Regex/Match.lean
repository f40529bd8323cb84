import PolicyGate.Regex.Basic
import PolicyGate.Unicode.Property

/-!
Matching a regular expression against a text. Sets of places in the text are natural numbers, the
bit `i` standing for the place before character `i`. An expression is first put on the text: it
becomes a walk from place to place, and a walk maps the places where it may start to those where it
may end.
-/
namespace PolicyGate

def Unicode.isWord (unicode : Bool) (c : Char) : Bool :=
  if c.toNat < 0x80 then c.isAlphanum || c == '_' else unicode && wordCharacter.contains c.toNat

def Look.isWord (unicode : Bool) (c : Option Char) : Bool := c.any (Unicode.isWord unicode)

/-- Whether an assertion holds between two characters; at an end of the text there is none. -/
def Look.holds (k : Look) (before after : Option Char) : Bool :=
  match k with
  | .textStart => before.isNone
  | .textEnd => after.isNone
  | .lineStart => before.isNone || before == some '\n'
  | .lineEnd => after.isNone || after == some '\n'
  | .anyLineStart =>
    before.isNone || before == some '\n' || (before == some '\r' && after != some '\n')
  | .anyLineEnd =>
    after.isNone || after == some '\r' || (after == some '\n' && before != some '\r')
  | .boundary u => isWord u before != isWord u after
  | .noBoundary u => isWord u before == isWord u after
  | .wordStart u => !isWord u before && isWord u after
  | .wordEnd u => isWord u before && !isWord u after
  | .noWordBefore u => !isWord u before
  | .noWordAfter u => !isWord u after

/-- An expression put on a text. -/
inductive Walk where
  /-- Stays where it is, at one of the places. -/
  | stay (places : Nat)
  /-- Goes on by one character for each set of places, from a place in it. -/
  | along (steps : List Nat)
  | seq (v w : Walk)
  | alt (v w : Walk)
  | times (least : Nat) (most : Option Nat) (w : Walk)

namespace Walk

/-- Applies a step `n` times; a fixed point is the result of all further steps. -/
def iterate (step : Nat → Nat) : (n : Nat) → Nat → Nat
  | 0, places => places
  | n + 1, places =>
    let next := step places
    if next = places then places else iterate step n next

/-- Adds to the places that were reached those reached from the latest ones by at most `n` steps. Only
what is new is stepped from again. -/
def reach (step : Nat → Nat) : (n : Nat) → (reached latest : Nat) → Nat
  | 0, reached, _ => reached
  | n + 1, reached, latest =>
    let next := step latest
    let fresh := next ^^^ (next &&& reached)
    if fresh = 0 then reached else reach step n (reached ||| fresh) fresh

/-- The places where a walk may end that starts at one of `places`. An unbounded repetition reaches
all it can after as many rounds as the text has places. -/
def ends (length : Nat) : Walk → (places : Nat) → Nat
  | .stay allowed, places => places &&& allowed
  | .along steps, places => steps.foldl (fun places allowed => (places &&& allowed) <<< 1) places
  | .seq v w, places => ends length w (ends length v places)
  | .alt v w, places => ends length v places ||| ends length w places
  | .times least most w, places =>
    let start := iterate (ends length w) least places
    reach (ends length w) (most.elim (length + 1) (· - least)) start start

end Walk

namespace Regex

/-- The number whose bits are given, the lowest first. -/
def bits : List Bool → Nat
  | [] => 0
  | b :: rest => b.toNat + 2 * bits rest

/-- The places before a character that is allowed. -/
def placesOf (text : List Char) (allowed : Char → Bool) : Nat := bits (text.map allowed)

/-- For each place from `before` on, whether an assertion holds there. -/
def marks (k : Look) (before : Option Char) : List Char → List Bool
  | [] => [k.holds before none]
  | c :: rest => k.holds before (some c) :: marks k (some c) rest

/-- Puts an expression on a text. -/
def walk (text : List Char) : Regex → Walk
  | .empty => .along []
  | .text cs => .along (cs.map fun c => placesOf text (· == c))
  | .set s => .along [placesOf text fun c => s.contains c.toNat]
  | .look k => .stay (bits (marks k none text))
  | .seq r s => .seq (walk text r) (walk text s)
  | .alt r s => .alt (walk text r) (walk text s)
  | .times least most r => .times least most (walk text r)
  | .group r => walk text r

/-- Some part of the text matches. -/
def isMatch (r : Regex) (text : String) : Bool :=
  let cs := text.toList
  (r.walk cs).ends cs.length (1 <<< (cs.length + 1) - 1) != 0

end Regex
end PolicyGate
