/-!
Binary64 numbers as bit patterns. Every finite number is an exact integer multiple of `2 ^ -1074`,
so order, rounding and arithmetic are stated on integers; nothing here uses machine floats.
-/
namespace PolicyGate

/-- A binary64 number, held as its bit pattern. -/
structure Double where
  bits : UInt64
deriving DecidableEq, Inhabited

namespace Double

def isNegative (x : Double) : Bool := x.bits.toNat.testBit 63

def exponentField (x : Double) : Nat := x.bits.toNat >>> 52 % 2048

def fraction (x : Double) : Nat := x.bits.toNat % (1 <<< 52)

def isNaN (x : Double) : Bool := x.exponentField == 2047 && x.fraction != 0

def isFinite (x : Double) : Bool := x.exponentField != 2047

/-- The digits of the magnitude, with the leading one that normal numbers leave out. -/
def significand (x : Double) : Nat :=
  if x.exponentField = 0 then x.fraction else 1 <<< 52 + x.fraction

/-- How far the significand stands above the smallest unit. -/
def shift (x : Double) : Nat := x.exponentField - 1

/-- The magnitude in units of `2 ^ -1074`. -/
def magnitude (x : Double) : Nat := x.significand <<< x.shift

/-- The number in units of `2 ^ -1074`. Infinities lie beyond every finite number. -/
def units (x : Double) : Int :=
  if x.isNegative then -(x.magnitude : Int) else x.magnitude

/-- Both zeros count as zero. -/
def isZero (x : Double) : Bool := x.magnitude == 0

/-- The numerical order; a NaN is unordered. -/
def compare? (x y : Double) : Option Ordering :=
  if x.isNaN || y.isNaN then none else some (compare x.units y.units)

/-- Numerical equality: the zeros are equal, a NaN differs from itself. -/
def equal (x y : Double) : Bool := x.compare? y == some .eq

/-- `num / den` to the nearest integer, a tie to the even one. -/
def roundHalfEven (num den : Nat) : Nat :=
  let q := num / den
  let r := num % den
  if 2 * r < den then q
  else if den < 2 * r then q + 1
  else if q % 2 = 0 then q
  else q + 1

def infinityBits : Nat := 2047 <<< 52

/-- The bits of the magnitude nearest to `num / den`. A carry out of the significand moves into the
exponent field, as the encoding is continuous there. -/
def nearestBits (num den : Nat) : Nat :=
  let n := num <<< 1074
  let s := (n / den).log2 - 52
  min (s <<< 52 + roundHalfEven n (den <<< s)) infinityBits

/-- The number nearest to `num / den` with the given sign, a tie to the even significand. -/
def ofRatio (negative : Bool) (num den : Nat) : Double :=
  ⟨(nearestBits num den + if negative then 1 <<< 63 else 0).toUInt64⟩

def ofInt (n : Int) : Double := ofRatio (decide (n < 0)) n.natAbs 1

def zero : Double := ⟨0⟩

/-- The number with the other sign: its highest bit is flipped. -/
def neg (x : Double) : Double := ⟨x.bits ^^^ 0x8000000000000000⟩

/-- The product of two finite numbers, rounded once. -/
def mul (x y : Double) : Double :=
  ofRatio (x.isNegative != y.isNegative) (x.magnitude * y.magnitude) (1 <<< 2148)

/-- The quotient of a finite number by a nonzero finite one, rounded once. -/
def div (x y : Double) : Double :=
  ofRatio (x.isNegative != y.isNegative) x.magnitude y.magnitude

/-- The integer that a number without a fractional part denotes. -/
def toInt? (x : Double) : Option Int :=
  if x.isFinite && x.magnitude % (1 <<< 1074) == 0 then
    let n : Int := (x.magnitude >>> 1074 : Nat)
    some (if x.isNegative then -n else n)
  else none

end Double
end PolicyGate
