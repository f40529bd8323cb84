import PolicyGate.Calendar.Timestamp
import PolicyGate.Text.Blank
import PolicyGate.Text.Split

/-!
Reading instants: RFC 3339, a list of layouts without an offset, and bare years or months. All are
tried in that order on the text without surrounding white space.
-/
namespace PolicyGate.Timestamp

open Text (isWhiteSpace)

/-- A reading step: what was read and what is left. -/
abbrev Step (α : Type) := List Char → Option (α × List Char)

/-- At least `least` digits, and no more than `most` of them. -/
def digitsUpTo (least : Nat) (most : Option Nat) : Step Nat := fun s =>
  let all := s.takeWhile Char.isDigit
  let taken := match most with
    | some n => all.take n
    | none => all
  if taken.length < least then none
  else some (Nat.ofDigitChars 10 taken 0, s.drop taken.length)

def two : Step Nat := digitsUpTo 2 (some 2)

def expect (c : Char) : List Char → Option (List Char)
  | d :: rest => if d = c then some rest else none
  | [] => none

/-- The digits after a decimal point as nanoseconds. Digits after the ninth are passed over. -/
def fraction (s : List Char) : Option (Nat × List Char) :=
  let all := s.takeWhile Char.isDigit
  let kept := all.take 9
  if all.isEmpty then none
  else some (Nat.ofDigitChars 10 kept 0 * Nat.pow 10 (9 - kept.length), s.drop all.length)

/-- An offset from UTC in seconds: `Z`, or a sign, hours and minutes, below one day. -/
def offset : Step Int
  | 'Z' :: rest => some (0, rest)
  | 'z' :: rest => some (0, rest)
  | sign :: rest => do
    let negative ←
      if sign = '+' then some false else if sign = '-' ∨ sign = '\u2212' then some true else none
    let (hours, rest) ← two rest
    let rest ← expect ':' rest
    let (minutes, rest) ← two rest
    let s : Int := hours * 3600 + minutes * 60
    if hours < 24 ∧ minutes < 60 then some (if negative then -s else s, rest) else none
  | [] => none

/-- An RFC 3339 instant. The date and the time may be parted by a space. -/
def rfc3339? (s : List Char) : Option Timestamp := do
  let (year, s) ← digitsUpTo 4 (some 4) s
  let s ← expect '-' s
  let (month, s) ← two s
  let s ← expect '-' s
  let (day, s) ← two s
  let s ← match s with
    | 'T' :: rest | 't' :: rest | ' ' :: rest => some rest
    | _ => none
  let (hour, s) ← two s
  let s ← expect ':' s
  let (minute, s) ← two s
  let s ← expect ':' s
  let (second, s) ← two s
  let (nanos, s) ← match s with
    | '.' :: rest => fraction rest
    | _ => some (0, s)
  let (shift, s) ← offset s
  let t ← ofCivil? ⟨year, month, day⟩ ⟨hour, minute, second, nanos⟩
  if s.isEmpty then some ⟨t.seconds - shift, t.nanos⟩ else none

inductive Part where
  | year | month | day | hour | minute | second
  /-- A decimal point with digits, or nothing. -/
  | fraction
  /-- Any amount of white space. -/
  | space
  | mark (c : Char)

structure Fill where
  date : Civil := ⟨0, 1, 1⟩
  clock : Clock := ⟨0, 0, 0, 0⟩

/-- A number of at most two digits, after white space. -/
def short (s : List Char) : Option (Nat × List Char) :=
  digitsUpTo 1 (some 2) (s.dropWhile isWhiteSpace)

/-- A year of at most four digits, or of any length with a sign, after white space. -/
def signedYear (s : List Char) : Option (Int × List Char) :=
  match s.dropWhile isWhiteSpace with
  | '-' :: rest => (digitsUpTo 1 none rest).map fun (n, rest) => (-(n : Int), rest)
  | '+' :: rest => (digitsUpTo 1 none rest).map fun (n, rest) => ((n : Int), rest)
  | s => (digitsUpTo 1 (some 4) s).map fun (n, rest) => ((n : Int), rest)

def Part.read (part : Part) (f : Fill) (s : List Char) : Option (Fill × List Char) :=
  match part with
  | .year => (signedYear s).map fun (n, s) => ({ f with date.year := n }, s)
  | .month => (short s).map fun (n, s) => ({ f with date.month := n }, s)
  | .day => (short s).map fun (n, s) => ({ f with date.day := n }, s)
  | .hour => (short s).map fun (n, s) => ({ f with clock.hour := n }, s)
  | .minute => (short s).map fun (n, s) => ({ f with clock.minute := n }, s)
  | .second => (short s).map fun (n, s) => ({ f with clock.second := n }, s)
  | .fraction =>
    match s with
    | '.' :: rest => (Timestamp.fraction rest).map fun (n, s) => ({ f with clock.nanos := n }, s)
    | _ => some (f, s)
  | .space => some (f, s.dropWhile isWhiteSpace)
  | .mark c => (expect c s).map (f, ·)

/-- The instant that a whole text spells in a layout, read as UTC. -/
def readLayout (layout : List Part) (s : List Char) : Option Timestamp := do
  let (f, rest) ← layout.foldlM (fun (f, s) part => part.read f s) (({} : Fill), s)
  if rest.isEmpty then ofCivil? f.date f.clock else none

def dashedDate : List Part := [.year, .mark '-', .month, .mark '-', .day]

def slashedDate : List Part := [.year, .mark '/', .month, .mark '/', .day]

def toMinute : List Part := [.hour, .mark ':', .minute]

def toSecond : List Part := toMinute ++ [.mark ':', .second]

/-- The layouts without an offset, in the order in which they are tried. -/
def layouts : List (List Part) :=
  [dashedDate ++ .mark 'T' :: toSecond ++ [.fraction],
    dashedDate ++ .mark 'T' :: toMinute,
    dashedDate ++ .space :: toSecond ++ [.fraction],
    dashedDate ++ .space :: toMinute,
    dashedDate,
    slashedDate]

/-- A year of four digits, or such a year and a month. -/
def monthOrYear? (s : List Char) : Option Timestamp := do
  let (year, month) ← match Text.cut? '-' s with
    | some (year, month) => (Text.natural? 0xFFFFFFFF month).map (year, ·)
    | none => some (s, 1)
  if year.length = 4 then
    let n ← Text.digits? year
    ofCivil? ⟨n, month, 1⟩ ⟨0, 0, 0, 0⟩
  else none

/-- The instant that a text spells, white space around it aside. -/
def read? (text : String) : Option Timestamp :=
  let s := Text.trimBy isWhiteSpace text.toList
  if s.isEmpty then none
  else (rfc3339? s).or ((layouts.findSome? fun layout => readLayout layout s).or (monthOrYear? s))

end PolicyGate.Timestamp
