import PolicyGate.Unicode.CharSet

/-!
Regular expressions over characters, with assertions about the place between two characters. The
functions that put expressions together keep them plain: sequences and choices are not nested in their
like, neighbouring texts are one, and a choice between single characters is a set.
-/
namespace PolicyGate

inductive Look where
  | textStart
  | textEnd
  | lineStart
  | lineEnd
  /-- Line starts and ends where carriage returns count as well. -/
  | anyLineStart
  | anyLineEnd
  | boundary (unicode : Bool)
  | noBoundary (unicode : Bool)
  | wordStart (unicode : Bool)
  | wordEnd (unicode : Bool)
  | noWordBefore (unicode : Bool)
  | noWordAfter (unicode : Bool)
deriving DecidableEq

inductive Regex where
  | empty
  | text (cs : List Char)
  | set (s : CharSet)
  | look (k : Look)
  | seq (r s : Regex)
  | alt (r s : Regex)
  | times (least : Nat) (most : Option Nat) (r : Regex)
  | group (r : Regex)
deriving Inhabited

namespace Regex

/-- One character of a set; a set of one character is a text. -/
def ofSet (s : CharSet) : Regex :=
  match s.scalars with
  | [(low, high)] => if low = high then .text [Char.ofNat low] else .set [(low, high)]
  | ranges => .set ranges

/-- No text but the empty one can match. -/
def isBlank : Regex → Bool
  | .empty => true
  | .text cs => cs.isEmpty
  | .look _ => true
  | .set _ => false
  | .seq r s => r.isBlank && s.isBlank
  | .alt r s => r.isBlank && s.isBlank
  | .times _ most r => most == some 0 || r.isBlank
  | .group r => r.isBlank

/-- The length of the shortest text that matches, assertions aside. There is none where a set without
members is involved. -/
def leastLength : Regex → Option Nat
  | .empty => some 0
  | .text cs => some cs.length
  | .look _ => some 0
  | .set s => if s.isEmpty then none else some 1
  | .seq r s => do some ((← r.leastLength) + (← s.leastLength))
  | .alt r s => do some (min (← r.leastLength) (← s.leastLength))
  | .times least _ r => r.leastLength.map (least * ·)
  | .group r => r.leastLength

/-- Every match starts with an assertion that the text starts there. -/
def startsText : Regex → Bool
  | .look k => k == .textStart
  | .seq r s => r.startsText || (r.isBlank && s.startsText)
  | .alt r s => r.startsText && s.startsText
  | .times least _ r => 0 < least && r.startsText
  | .group r => r.startsText
  | _ => false

/-- Every match ends with an assertion that the text ends there. -/
def endsText : Regex → Bool
  | .look k => k == .textEnd
  | .seq r s => s.endsText || (s.isBlank && r.endsText)
  | .alt r s => r.endsText && s.endsText
  | .times least _ r => 0 < least && r.endsText
  | .group r => r.endsText
  | _ => false

/-- Whether two expressions are written alike. Groups are told apart by their place in the pattern. -/
def same : Regex → Regex → Bool
  | .empty, .empty => true
  | .text cs, .text ds => cs == ds
  | .set s, .set t => s == t
  | .look k, .look l => k == l
  | .seq r s, .seq r' s' => r.same r' && s.same s'
  | .alt r s, .alt r' s' => r.same r' && s.same s'
  | .times least most r, .times least' most' r' => least == least' && most == most' && r.same r'
  | _, _ => false

/-- A repetition. One of a blank expression is no more than one round of it. -/
def replicate (least : Nat) (most : Option Nat) (r : Regex) : Regex :=
  let (least, most) :=
    if r.isBlank then (min least 1, some (min (most.getD 1) 1)) else (least, most)
  if most = some 0 then .empty
  else if least = 1 ∧ most = some 1 then r
  else .times least most r

/-- The members of a sequence. -/
def parts : Regex → List Regex
  | .empty => []
  | .seq r s => r :: s.parts
  | r => [r]

/-- The branches of a choice. -/
def branches : Regex → List Regex
  | .alt r s => r :: s.branches
  | r => [r]

/-- Makes one text of neighbouring ones. -/
def joinTexts : List Regex → List Regex
  | [] => []
  | .text cs :: rest =>
    match joinTexts rest with
    | .text ds :: more => .text (cs ++ ds) :: more
    | more => .text cs :: more
  | r :: rest => r :: joinTexts rest

def ofParts : List Regex → Regex
  | [] => .empty
  | [r] => r
  | r :: rest => .seq r (ofParts rest)

/-- Expressions one after another. -/
def sequence (rs : List Regex) : Regex := ofParts (joinTexts (rs.flatMap parts))

def ofBranches : List Regex → Regex
  | [] => .set []
  | [r] => r
  | r :: rest => .alt r (ofBranches rest)

/-- The set that a choice stands for if its branches are all single characters or all sets. -/
def asSet? (rs : List Regex) : Option CharSet :=
  let single? : Regex → Option CharSet
    | .text [c] => some (.single c.toNat)
    | _ => none
  let set? : Regex → Option CharSet
    | .set s => some s
    | _ => none
  ((rs.mapM single?).or (rs.mapM set?)).map List.flatten

/-- How many members two sequences share in front. -/
def sharedParts : List Regex → List Regex → Nat
  | r :: rs, s :: ss => if r.same s then sharedParts rs ss + 1 else 0
  | _, _ => 0

/-- How many members all branches share in front; branches that are no sequences share none. -/
def sharedByAll : List Regex → Nat
  | [] => 0
  | r :: rest =>
    let shared : Regex → Nat
      | .seq s t => sharedParts r.parts (.seq s t : Regex).parts
      | _ => 0
    rest.foldl (fun n s => min n (shared s)) (shared r)

/-- A choice between branches. What they share in front is taken out of it, at most `fuel` times. -/
def choiceWithin : (fuel : Nat) → List Regex → Regex
  | _, [r] => r
  | fuel, rs =>
    match asSet? rs with
    | some s => ofSet s
    | none =>
      match fuel, sharedByAll rs with
      | fuel + 1, n + 1 =>
        let lifted := (rs.head?.map parts).getD [] |>.take (n + 1)
        let rest := rs.map fun r => sequence (r.parts.drop (n + 1))
        sequence (lifted ++ [choiceWithin fuel (rest.flatMap branches)])
      | _, _ => ofBranches rs

def choice (rs : List Regex) : Regex :=
  let rs := rs.flatMap branches
  choiceWithin (rs.foldl (fun n r => n + r.parts.length) 0) rs

end Regex
end PolicyGate
