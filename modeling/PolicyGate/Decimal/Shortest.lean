import PolicyGate.Double

/-!
The shortest decimal that reads back as a given binary64 number: the fewest digits inside the
interval of reals that round to it, and among those the nearest to it.
-/
namespace PolicyGate

/-- The number `digits * 10 ^ exponent`. -/
structure Scientific where
  digits : Nat
  exponent : Int
deriving DecidableEq, Inhabited

namespace Scientific

/-- Moves zeros at the end of the digits into the exponent. -/
def normalize : Nat → Scientific → Scientific
  | 0, d => d
  | fuel + 1, d =>
    if d.digits ≠ 0 ∧ d.digits % 10 = 0 then normalize fuel ⟨d.digits / 10, d.exponent + 1⟩ else d

end Scientific

namespace Double

/-- The reals that round to a positive number, in units of `2 ^ -1076`: from `low` to `high` around
`centre`. The ends belong to it when the significand is even. -/
structure Basin where
  low : Nat
  centre : Nat
  high : Nat
  closed : Bool

def basin (x : Double) : Basin :=
  let step := 1 <<< x.shift
  let below := if x.significand = 1 <<< 52 ∧ 0 < x.shift then step else 2 * step
  ⟨4 * x.magnitude - below, 4 * x.magnitude, 4 * x.magnitude + 2 * step, x.significand % 2 == 0⟩

/-- Whether `digits * 10 ^ exponent` lies in the basin. -/
def Basin.contains (b : Basin) (d : Scientific) : Bool :=
  let scaled := (d.digits * Nat.pow 10 d.exponent.toNat) <<< 1076
  let unit := Nat.pow 10 (-d.exponent).toNat
  if b.closed then b.low * unit ≤ scaled && scaled ≤ b.high * unit
  else b.low * unit < scaled && scaled < b.high * unit

/-- The multiple of `10 ^ exponent` at or just below the centre, and twice what remains against the
grid step: less, equal or more than half a step. -/
def Basin.floorOn (b : Basin) (exponent : Int) : Nat × Ordering :=
  let num := b.centre * Nat.pow 10 (-exponent).toNat
  let den := Nat.pow 10 exponent.toNat <<< 1076
  (num / den, compare (2 * (num % den)) den)

/-- The decimal exponent of the leading digit of the centre. -/
def Basin.leading (b : Basin) : Int :=
  let guess : Int := ((b.centre.log2 : Int) - 1076) * 30103 / 100000
  if (b.floorOn (guess + 1)).1 = 0 then guess else guess + 1

/-- The nearest point of the grid `10 ^ exponent` inside the basin. -/
def Basin.onGrid (b : Basin) (exponent : Int) : Option Scientific :=
  let (t, side) := b.floorOn exponent
  let lower : Scientific := ⟨t, exponent⟩
  let upper : Scientific := ⟨t + 1, exponent⟩
  match b.contains lower, b.contains upper with
  | true, true => some (if side == .lt || (side == .eq && t % 2 == 0) then lower else upper)
  | true, false => some lower
  | false, true => some upper
  | false, false => none

/-- Tries grids from coarse to fine. -/
def Basin.search (b : Basin) : Nat → Int → Scientific
  | 0, exponent => ⟨(b.floorOn exponent).1, exponent⟩
  | fuel + 1, exponent =>
    match b.onGrid exponent with
    | some d => d
    | none => b.search fuel (exponent - 1)

/-- The shortest decimal of the magnitude of a finite number. Seventeen digits always suffice. -/
def shortest (x : Double) : Scientific :=
  if x.isZero then ⟨0, 0⟩
  else Scientific.normalize 20 (x.basin.search 17 x.basin.leading)

end Double
end PolicyGate
