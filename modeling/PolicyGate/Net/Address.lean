import PolicyGate.Text.Numeral
import PolicyGate.Text.Split

/-!
IP addresses of both versions, and their text. A longer address is read in every form that the
standard allows and written in one: lower case, with the first of its longest runs of zeros left out.
-/
namespace PolicyGate.Net

inductive Address where
  | v4 (a b c d : UInt8)
  | v6 (groups : Vector UInt16 8)
deriving DecidableEq

namespace Address

def loopback : Address := .v4 127 0 0 1

/-- Up to three digits, the first of several not zero. -/
def octet? (s : List Char) : Option UInt8 := do
  let n ← Text.digits? s
  if s.length ≤ 3 ∧ n ≤ 255 ∧ (s.head? ≠ some '0' ∨ s.length = 1) then some (UInt8.ofNat n) else none

def v4? (s : List Char) : Option (UInt8 × UInt8 × UInt8 × UInt8) :=
  match Text.splitOn '.' s with
  | [a, b, c, d] => do return (← octet? a, ← octet? b, ← octet? c, ← octet? d)
  | _ => none

/-- One to four hexadecimal digits. -/
def group? (s : List Char) : Option UInt16 :=
  if s.length ≤ 4 then (Text.hexadecimal? s).map UInt16.ofNat else none

def pair (a b : UInt8) : UInt16 := UInt16.ofNat (a.toNat * 256 + b.toNat)

/-- Groups between colons. The last two may be spelt as a short address. -/
def groups? : List (List Char) → Option (List UInt16)
  | [] => some []
  | [last] =>
    match v4? last with
    | some (a, b, c, d) => some [pair a b, pair c d]
    | none => (group? last).map fun g => [g]
  | piece :: rest => do
    let g ← group? piece
    let gs ← groups? rest
    return g :: gs

/-- A side of a double colon, which may be empty. -/
def side? (read : List (List Char) → Option (List UInt16)) (s : List Char) : Option (List UInt16) :=
  if s.isEmpty then some [] else read (Text.splitOn ':' s)

/-- The parts before and after the first double colon. -/
def doubleColon? : List Char → Option (List Char × List Char)
  | ':' :: ':' :: rest => some ([], rest)
  | [] => none
  | c :: rest => (doubleColon? rest).map fun (before, rest) => (c :: before, rest)

/-- All groups; a double colon stands for one group of zeros or more. -/
def allGroups? (s : List Char) : Option (List UInt16) :=
  match doubleColon? s with
  | none => groups? (Text.splitOn ':' s)
  | some (before, after) => do
    let front ← side? (List.mapM group?) before
    let back ← side? groups? after
    let given := front.length + back.length
    if given < 8 then some (front ++ List.replicate (8 - given) 0 ++ back) else none

def v6? (s : List Char) : Option (Vector UInt16 8) :=
  (allGroups? s).bind fun groups =>
    if h : groups.length = 8 then some ⟨groups.toArray, by simpa using h⟩ else none

def read? (s : List Char) : Option Address :=
  match v4? s with
  | some (a, b, c, d) => some (.v4 a b c d)
  | none => (v6? s).map .v6

def v4Text (a b c d : UInt8) : List Char :=
  Text.joinWith '.' ([a, b, c, d].map fun n => Text.decimal n.toNat)

def groupsText (groups : List UInt16) : List Char :=
  Text.joinWith ':' (groups.map fun g => Nat.toDigits 16 g.toNat)

/-- Where the longest run of zeros begins, the first of several, and its length. -/
def longestRun : List UInt16 → Nat × Nat
  | [] => (0, 0)
  | g :: rest =>
    let (start, length) := longestRun rest
    let here := ((g :: rest).takeWhile (· == 0)).length
    if length ≤ here then (0, here) else (start + 1, length)

/-- A run of a single zero is written out. An address that maps a short one shows it. -/
def v6Text (groups : List UInt16) : List Char :=
  match groups with
  | [0, 0, 0, 0, 0, 0xFFFF, ab, cd] =>
    let bytes (g : UInt16) : UInt8 × UInt8 := (UInt8.ofNat (g.toNat / 256), UInt8.ofNat (g.toNat % 256))
    let (a, b) := bytes ab
    let (c, d) := bytes cd
    "::ffff:".toList ++ v4Text a b c d
  | _ =>
    let (start, length) := longestRun groups
    if 1 < length then
      groupsText (groups.take start) ++ [':', ':'] ++ groupsText (groups.drop (start + length))
    else groupsText groups

def text : Address → List Char
  | .v4 a b c d => v4Text a b c d
  | .v6 groups => v6Text groups.toList

/-- An address with a port; colons in the address are told from the one before the port by brackets. -/
def withPort (address : Address) (port : UInt16) : String :=
  let port := ':' :: Text.decimal port.toNat
  match address with
  | .v4 _ _ _ _ => String.ofList (address.text ++ port)
  | .v6 _ => String.ofList ('[' :: address.text ++ ']' :: port)

end Address
end PolicyGate.Net
