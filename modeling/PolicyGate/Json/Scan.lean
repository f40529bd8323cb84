import PolicyGate.Json.Basic
import PolicyGate.Json.Fault

/-!
The parts of a JSON text below values: blanks, words, string literals and numbers. Each step takes
the unread input and answers what it read with the new rest, or a fault.
-/
namespace PolicyGate.Json

/-- Outcome of reading: a value and the rest of the input. -/
abbrev Outcome (α : Type) := Except Fault (α × Input)

def isBlank (c : Option Char) : Bool :=
  c == some ' ' || c == some '\t' || c == some '\n' || c == some '\r'

def skipBlanks (s : Input) : Input := s.dropWhile isBlank

/-- The rest of a word whose first letter was read. -/
def word : List Char → Input → Except Fault Input
  | [], s => .ok s
  | _ :: _, [] => .error ⟨.endOfValue, [], 0⟩
  | c :: cs, d :: rest => if d = some c then word cs rest else .error ⟨.expectedIdent, d :: rest, 1⟩

/-- Four hexadecimal digits. The four bytes count as read even if they are no digits. -/
def hex4 (s : Input) : Except Fault Nat :=
  if ((s.take 4).flatMap byteMarks).length < 4 then .error ⟨.endOfString, [], 0⟩
  else
    match (s.take 4).mapM (·.bind Text.hexValue?) with
    | some [a, b, c, d] => .ok (((a * 16 + b) * 16 + c) * 16 + d)
    | _ => .error ⟨.invalidEscape, s, 4⟩

/-- What follows `\u`: the character and how many characters of the input spell it. Characters
beyond U+FFFF are spelt by two escapes, the halves of a surrogate pair. -/
def unicodeEscape (s : Input) : Except Fault (Char × Nat) := do
  let high ← hex4 s
  let rest := s.drop 4
  if 0xDC00 ≤ high ∧ high ≤ 0xDFFF then .error ⟨.loneLeadingSurrogate, rest, 0⟩
  else if high < 0xD800 ∨ 0xDBFF < high then .ok (Char.ofNat high, 4)
  else
    match rest with
    | [] => .error ⟨.endOfString, [], 0⟩
    | some '\\' :: [] => .error ⟨.endOfString, [], 0⟩
    | some '\\' :: some 'u' :: rest => do
      let low ← hex4 rest
      if low < 0xDC00 ∨ 0xDFFF < low then .error ⟨.loneLeadingSurrogate, rest.drop 4, 0⟩
      else .ok (Char.ofNat ((high - 0xD800) * 0x400 + (low - 0xDC00) + 0x10000), 10)
    | some '\\' :: rest => .error ⟨.unexpectedEndOfHexEscape, rest, 1⟩
    | rest => .error ⟨.unexpectedEndOfHexEscape, rest, 1⟩

/-- What follows a backslash: the character and how many characters of the input spell it. -/
def escape : Input → Except Fault (Char × Nat)
  | [] => .error ⟨.endOfString, [], 0⟩
  | some '"' :: _ => .ok ('"', 1)
  | some '\\' :: _ => .ok ('\\', 1)
  | some '/' :: _ => .ok ('/', 1)
  | some 'b' :: _ => .ok ('\x08', 1)
  | some 'f' :: _ => .ok ('\x0c', 1)
  | some 'n' :: _ => .ok ('\n', 1)
  | some 'r' :: _ => .ok ('\r', 1)
  | some 't' :: _ => .ok ('\t', 1)
  | some 'u' :: rest => (unicodeEscape rest).map fun (c, used) => (c, used + 1)
  | s => .error ⟨.invalidEscape, s, 1⟩

/-- The rest of a string literal. `skip` characters of the input still belong to an escape that was
already read, `read` holds the characters so far in reverse, and `sound` tells whether all bytes so
far were characters: a literal with others is refused where it ends. -/
def literal : (skip : Nat) → (read : List Char) → (sound : Bool) → Input → Outcome String
  | _, _, _, [] => .error ⟨.endOfString, [], 0⟩
  | skip + 1, read, sound, _ :: rest => literal skip read sound rest
  | 0, read, _, none :: rest => literal 0 read false rest
  | 0, read, sound, some c :: rest =>
    if c = '"' then
      if sound then .ok (String.ofList read.reverse, rest) else .error ⟨.invalidCodePoint, rest, 0⟩
    else if c = '\\' then
      match escape rest with
      | .error e => .error e
      | .ok (d, used) => literal used (d :: read) sound rest
    else if c.toNat < 0x20 then .error ⟨.controlCharacter, some c :: rest, 1⟩
    else literal 0 (c :: read) sound rest

def stringBody (s : Input) : Outcome String := literal 0 [] true s

def isDigit : Option Char → Bool
  | none => false
  | some c => c.isDigit

def startsWithDigit : Input → Bool
  | [] => false
  | c :: _ => isDigit c

/-- The greatest significand that is taken from digits: all of 64 bits. -/
def greatestSignificand : Nat := 0xFFFFFFFFFFFFFFFF

/-- Takes digits into a significand while it is not too great, and counts them. -/
def takeDigits (significand taken : Nat) : Input → Nat × Nat × Input
  | some c :: rest =>
    let n := 10 * significand + (c.toNat - 48)
    if c.isDigit ∧ n ≤ greatestSignificand then takeDigits n (taken + 1) rest
    else (significand, taken, some c :: rest)
  | s => (significand, taken, s)

def skipDigits (s : Input) : Input := s.dropWhile isDigit

def powerOfTen (e : Nat) : Double := Double.ofRatio false (Nat.pow 10 e) 1

/-- Scales a magnitude by `10 ^ exponent` in one rounded step, after steps of `10 ^ -308` if the
exponent is below that. `none` if the result is beyond the finite numbers. -/
def scale : (steps : Nat) → Double → Int → Option Double
  | 0, x, _ => some x
  | steps + 1, x, exponent =>
    if exponent.natAbs ≤ 308 then
      if 0 ≤ exponent then
        let y := x.mul (powerOfTen exponent.natAbs)
        if y.isFinite then some y else none
      else some (x.div (powerOfTen exponent.natAbs))
    else if x.isZero then some x
    else if 0 ≤ exponent then none
    else scale steps (x.div (powerOfTen 308)) (exponent + 308)

def signed (positive : Bool) (x : Double) : Double := if positive then x else x.neg

/-- The double with a significand of 64 bits and a decimal exponent. Three steps are enough: after
two the magnitude is zero. -/
def assemble (positive : Bool) (significand : Nat) (exponent : Int) (rest : Input) : Outcome Json :=
  match scale 3 (Double.ofInt significand) exponent with
  | some x => .ok (.double (signed positive x), rest)
  | none => .error ⟨.numberOutOfRange, rest, 0⟩

def greatestExponent : Nat := 0x7FFFFFFF

/-- The digits of an exponent. One that is too great decides the number. -/
def exponentDigits (positive positiveExponent : Bool) (significand : Nat) (start : Int) :
    (e : Nat) → Input → Outcome Json
  | e, some c :: rest =>
    if c.isDigit then
      let n := 10 * e + (c.toNat - 48)
      if n ≤ greatestExponent then exponentDigits positive positiveExponent significand start n rest
      else if significand ≠ 0 ∧ positiveExponent then .error ⟨.numberOutOfRange, rest, 0⟩
      else .ok (.double (signed positive .zero), skipDigits rest)
    else assemble positive significand (start + if positiveExponent then (e : Int) else -e) (some c :: rest)
  | e, s => assemble positive significand (start + if positiveExponent then (e : Int) else -e) s

/-- What follows `e`: an optional sign and at least one digit. -/
def exponentPart (positive : Bool) (significand : Nat) (start : Int) (s : Input) : Outcome Json :=
  let (positiveExponent, s) := match s with
    | some '+' :: rest => (true, rest)
    | some '-' :: rest => (false, rest)
    | _ => (true, s)
  match s with
  | [] => .error ⟨.endOfValue, [], 0⟩
  | c :: rest =>
    if isDigit c then exponentDigits positive positiveExponent significand start 0 (c :: rest)
    else .error ⟨.invalidNumber, c :: rest, 1⟩

def exponentOrEnd (positive : Bool) (significand : Nat) (exponent : Int) (s : Input) : Outcome Json :=
  match s with
  | some 'e' :: rest => exponentPart positive significand exponent rest
  | some 'E' :: rest => exponentPart positive significand exponent rest
  | _ => assemble positive significand exponent s

/-- What follows the point. Digits that no longer fit the significand are passed over. -/
def fractionPart (positive : Bool) (significand : Nat) (exponent : Int) (s : Input) : Outcome Json :=
  let (n, taken, rest) := takeDigits significand 0 s
  if startsWithDigit rest then exponentOrEnd positive n (exponent - taken) (skipDigits rest)
  else if taken = 0 then
    .error ⟨if rest.isEmpty then .endOfValue else .invalidNumber, rest, 1⟩
  else exponentOrEnd positive n (exponent - taken) rest

/-- An integer of 64 bits is an integer; `-0` and integers beyond are doubles. -/
def integerEnd (positive : Bool) (significand : Nat) (s : Input) : Outcome Json :=
  match s with
  | some '.' :: rest => fractionPart positive significand 0 rest
  | some 'e' :: rest => exponentPart positive significand 0 rest
  | some 'E' :: rest => exponentPart positive significand 0 rest
  | _ =>
    if positive then .ok (.int significand, s)
    else if significand = 0 ∨ Int64.minValue.toInt.natAbs < significand then
      .ok (.double (Double.ofInt significand).neg, s)
    else .ok (.int (-significand), s)

/-- A number whose sign was read. -/
def number (positive : Bool) (s : Input) : Outcome Json :=
  match s with
  | [] => .error ⟨.endOfValue, [], 0⟩
  | some '0' :: rest =>
    if startsWithDigit rest then .error ⟨.invalidNumber, rest, 1⟩ else integerEnd positive 0 rest
  | c :: rest =>
    if isDigit c then
      let (n, _, rest) := takeDigits 0 0 (c :: rest)
      let further := skipDigits rest
      if startsWithDigit rest then
        let exponent : Int := (rest.length - further.length : Nat)
        match further with
        | some '.' :: rest => fractionPart positive n exponent rest
        | _ => exponentOrEnd positive n exponent further
      else integerEnd positive n rest
    else .error ⟨.invalidNumber, c :: rest, 1⟩

end PolicyGate.Json
