/-!
Numerals of ASCII digits: decimal ones, read with an optional sign and a range and written plain or
padded, and hexadecimal ones.
-/
namespace PolicyGate.Text

/-- The value of a text of digits; the empty text has none. -/
def digits? (s : List Char) : Option Nat :=
  if s.isEmpty || !s.all Char.isDigit then none else some (Nat.ofDigitChars 10 s 0)

/-- A numeral with an optional plus sign, up to `greatest`. -/
def natural? (greatest : Nat) (s : List Char) : Option Nat := do
  let n ← digits? (match s with | '+' :: rest => rest | _ => s)
  if n ≤ greatest then some n else none

/-- A numeral with an optional sign that fits 64 bits. -/
def integer? (s : List Char) : Option Int := do
  let n : Int ← match s with
    | '-' :: rest => (digits? rest).map fun n => -(n : Int)
    | '+' :: rest => (digits? rest).map Int.ofNat
    | _ => (digits? s).map Int.ofNat
  if Int64.minValue.toInt ≤ n ∧ n ≤ Int64.maxValue.toInt then some n else none

/-- The numeral of a natural number, without leading zeros. -/
def decimal (n : Nat) : List Char := Nat.toDigits 10 n

def signedDecimal (n : Int) : List Char := if n < 0 then '-' :: decimal n.natAbs else decimal n.natAbs

/-- A numeral of at least `width` places, filled up in front. -/
def padded (fill : Char) (width n : Nat) : List Char :=
  let digits := decimal n
  List.replicate (width - digits.length) fill ++ digits

/-- The value of a hexadecimal digit of either case. -/
def hexValue? (c : Char) : Option Nat :=
  if c.isDigit then some (c.toNat - 48)
  else if 'a' ≤ c ∧ c ≤ 'f' then some (c.toNat - 87)
  else if 'A' ≤ c ∧ c ≤ 'F' then some (c.toNat - 55)
  else none

/-- The value of hexadecimal digits; the empty text has none. -/
def hexadecimal? (s : List Char) : Option Nat :=
  if s.isEmpty then none
  else (s.mapM hexValue?).map fun ds => ds.foldl (fun n d => n * 16 + d) 0

/-- Digits, at least one, and the number that they stand for. -/
def Numeral (s : List Char) (n : Nat) : Prop :=
  s ≠ [] ∧ (∀ c ∈ s, c.isDigit = true) ∧ Nat.ofDigitChars 10 s 0 = n

theorem digits?_eq_some {s : List Char} {n : Nat} : digits? s = some n ↔ Numeral s n := by
  have refused : (s.isEmpty || !s.all Char.isDigit) = true ↔
      ¬ (s ≠ [] ∧ ∀ c ∈ s, c.isDigit = true) := by
    simp only [Bool.or_eq_true, List.isEmpty_iff, Bool.not_eq_true', List.all_eq_false]
    grind
  rw [digits?, Numeral, ← and_assoc]
  by_cases digits : s ≠ [] ∧ ∀ c ∈ s, c.isDigit = true
  · rw [if_neg fun none => refused.mp none digits, Option.some.injEq, and_iff_right digits]
  · rw [if_pos (refused.mpr digits)]
    exact ⟨nofun, fun read => absurd read.1 digits⟩

theorem numeral_decimal (n : Nat) : Numeral (decimal n) n :=
  ⟨Nat.toDigits_ne_nil, fun _ => Nat.isDigit_of_mem_toDigits (by decide) (by decide),
    Nat.ofDigitChars_ten_toDigits⟩

theorem natural?_eq_some {greatest n : Nat} {s : List Char} :
    natural? greatest s = some n ↔
      n ≤ greatest ∧ (Numeral s n ∨ ∃ digits, s = '+' :: digits ∧ Numeral digits n) := by
  have within (x : Option Nat) :
      (x.bind fun m => if m ≤ greatest then some m else none) = some n ↔ n ≤ greatest ∧ x = some n := by
    cases x <;> grind
  unfold natural?
  refine (within _).trans (and_congr_right fun _ => ?_)
  rw [digits?_eq_some]
  split
  · rename_i rest
    have signed : ¬ Numeral ('+' :: rest) n := fun numeral =>
      absurd (numeral.2.1 '+' List.mem_cons_self) (by decide)
    simp [signed]
  · rename_i unsigned
    refine ⟨.inl, fun either => either.resolve_right ?_⟩
    rintro ⟨digits, same, _⟩
    exact unsigned digits same

end PolicyGate.Text
