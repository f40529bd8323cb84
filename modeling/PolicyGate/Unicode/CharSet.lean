import PolicyGate.Text.Numeral

/-!
Sets of characters as lists of code point ranges, and the reading of range tables. Ranges may overlap
and stand in any order unless `normalize` has put them in order.
-/
namespace PolicyGate

/-- Ranges of code points, both ends included. -/
abbrev CharSet := List (Nat × Nat)

namespace CharSet

def greatest : Nat := 0x10FFFF

def contains (s : CharSet) (n : Nat) : Bool := List.any s fun (low, high) => low ≤ n && n ≤ high

def single (n : Nat) : CharSet := [(n, n)]

def every : CharSet := [(0, greatest)]

def union (s t : CharSet) : CharSet := s ++ t

/-- Joins a range with those after it that it touches, and these with one another; they must be sorted
by their low ends, and the range must come first. -/
def joinAfter (low high : Nat) : CharSet → CharSet
  | [] => [(low, high)]
  | (low', high') :: rest =>
    if low' ≤ high + 1 then joinAfter low (max high high') rest
    else (low, high) :: joinAfter low' high' rest

def joinSorted : CharSet → CharSet
  | [] => []
  | (low, high) :: rest => joinAfter low high rest

/-- The ranges in order, none touching another. -/
def normalize (s : CharSet) : CharSet :=
  joinSorted ((s.filter fun (low, high) => low ≤ high).mergeSort fun a b => a.1 ≤ b.1)

/-- The ranges in order, without the surrogates, which are no characters. -/
def scalars (s : CharSet) : CharSet :=
  s.normalize.flatMap fun (low, high) =>
    [(low, min high 0xD7FF), (max low 0xE000, high)].filter fun (low, high) => low ≤ high

/-- The gaps from `start` on between sorted ranges. -/
def gaps (start : Nat) : CharSet → CharSet
  | [] => if start ≤ greatest then [(start, greatest)] else []
  | (low, high) :: rest =>
    if start < low then (start, low - 1) :: gaps (high + 1) rest else gaps (max start (high + 1)) rest

def complement (s : CharSet) : CharSet := gaps 0 s.normalize

def inter (s t : CharSet) : CharSet := complement (union (complement s) (complement t))

def difference (s t : CharSet) : CharSet := inter s (complement t)

def symmetricDifference (s t : CharSet) : CharSet := union (difference s t) (difference t s)

/-- No range goes beyond ASCII. -/
def isAscii (s : CharSet) : Bool := List.all s fun (_, high) => high ≤ 0x7F

/-- The ranges given by the lengths of the stretches outside and inside, by turns. -/
def ofStretches (start : Nat) : List Nat → CharSet
  | outside :: inside :: rest =>
    let low := start + outside
    (low, low + inside - 1) :: ofStretches (low + inside) rest
  | _ => []

end CharSet

namespace Unicode

/-- Hexadecimal numbers parted by blanks or ends of lines. -/
def numbers (text : String) : List Nat :=
  let step : List Nat × Option Nat → Char → List Nat × Option Nat := fun (done, current) c =>
    match Text.hexValue? c with
    | some d => (done, some (current.getD 0 * 16 + d))
    | none => (current.toList ++ done, none)
  let (done, current) := text.toList.foldl step ([], none)
  (current.toList ++ done).reverse

/-- The ranges given by their ends, by turns. -/
def ofEnds : List Nat → CharSet
  | low :: high :: rest => (low, high) :: ofEnds rest
  | _ => []

/-- Reads labelled stretches: a label of `width` letters, then the length of the stretch. Labels
start with a capital; blanks mean nothing. The stretches cover all code points in order. -/
def labelled (width : Nat) (text : String) : List (String × Nat × Nat) :=
  let step : List (List Char × Nat) → Char → List (List Char × Nat) := fun done c =>
    if c.isWhitespace then done
    else if c.isUpper then ([c], 0) :: done
    else
      match done with
      | [] => []
      | (label, n) :: rest =>
        if label.length < width then (label ++ [c], n) :: rest
        else (label, n * 16 + (Text.hexValue? c).getD 0) :: rest
  let place : List (String × Nat × Nat) × Nat → List Char × Nat → List (String × Nat × Nat) × Nat :=
    fun (made, start) (label, n) => ((String.ofList label, start, start + n - 1) :: made, start + n)
  ((text.toList.foldl step []).reverse.foldl place ([], 0)).1.reverse

end Unicode
end PolicyGate
