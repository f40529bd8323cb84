import Mathlib.Algebra.Group.Nat.Defs
import PolicyGate.Double

/-!
Rounding integers to binary64 keeps their order, and integers of 53 bits are not rounded.
-/
namespace PolicyGate.Double

theorem roundHalfEven_between (num den : Nat) :
    num / den ≤ roundHalfEven num den ∧ roundHalfEven num den ≤ num / den + 1 := by
  unfold roundHalfEven
  dsimp only
  repeat' split
  all_goals omega

theorem roundHalfEven_mono {a b : Nat} (ordered : a ≤ b) (den : Nat) :
    roundHalfEven a den ≤ roundHalfEven b den := by
  have quotients : a / den ≤ b / den := Nat.div_le_div_right ordered
  rcases Nat.lt_or_eq_of_le quotients with less | same
  · have above := (roundHalfEven_between a den).2
    have below := (roundHalfEven_between b den).1
    omega
  · have ha := Nat.div_add_mod a den
    have hb := Nat.div_add_mod b den
    rw [same] at ha
    have remainders : a % den ≤ b % den := by omega
    unfold roundHalfEven
    rw [same]
    dsimp only
    repeat' split
    all_goals omega

/-- The bits of the magnitude nearest to so many units, before they are cut off at infinity. -/
def gridBits (n : Nat) : Nat :=
  (n.log2 - 52) * 2 ^ 52 + roundHalfEven n (2 ^ (n.log2 - 52))

theorem nearestBits_one (num : Nat) :
    nearestBits num 1 = min (gridBits (num * 2 ^ 1074)) infinityBits := by
  rw [← Nat.shiftLeft_eq, nearestBits, Nat.div_one]
  unfold gridBits
  rw [Nat.one_shiftLeft, Nat.shiftLeft_eq _ 52]

theorem log2_mono {a b : Nat} (ordered : a ≤ b) : a.log2 ≤ b.log2 := by
  by_cases zero : a = 0
  · rw [zero, Nat.log2_zero]
    exact Nat.zero_le _
  · have positive : b ≠ 0 := by omega
    exact (Nat.le_log2 positive).mpr (Nat.le_trans (Nat.log2_self_le zero) ordered)

theorem lt_scaled (n : Nat) : n < 2 ^ 53 * 2 ^ (n.log2 - 52) := by
  rw [← Nat.pow_add]
  exact Nat.lt_of_lt_of_le Nat.lt_log2_self (Nat.pow_le_pow_right (by decide) (by omega))

/-- Rounding may carry a significand of 53 bits to the next power. -/
theorem roundHalfEven_le (n : Nat) : roundHalfEven n (2 ^ (n.log2 - 52)) ≤ 2 ^ 53 := by
  have quotient : n / 2 ^ (n.log2 - 52) < 2 ^ 53 :=
    (Nat.div_lt_iff_lt_mul (Nat.two_pow_pos _)).mpr (lt_scaled n)
  have up := (roundHalfEven_between n (2 ^ (n.log2 - 52))).2
  omega

/-- The significand has 53 bits, unless the number is small. -/
theorem le_roundHalfEven {n : Nat} (large : 0 < n.log2 - 52) :
    2 ^ 52 ≤ roundHalfEven n (2 ^ (n.log2 - 52)) := by
  have nonzero : n ≠ 0 := by
    rintro rfl
    rw [Nat.log2_zero] at large
    omega
  have above : 2 ^ 52 * 2 ^ (n.log2 - 52) ≤ n := by
    rw [← Nat.pow_add, Nat.add_sub_of_le (by omega)]
    exact Nat.log2_self_le nonzero
  have quotient : 2 ^ 52 ≤ n / 2 ^ (n.log2 - 52) :=
    (Nat.le_div_iff_mul_le (Nat.two_pow_pos _)).mpr above
  exact Nat.le_trans quotient (roundHalfEven_between n _).1

theorem gridBits_mono {a b : Nat} (ordered : a ≤ b) : gridBits a ≤ gridBits b := by
  have scales : a.log2 - 52 ≤ b.log2 - 52 := Nat.sub_le_sub_right (log2_mono ordered) 52
  unfold gridBits
  rcases Nat.lt_or_eq_of_le scales with less | same
  -- Even a carry on the finer scale does not pass the least significand on the coarser one.
  · have top := roundHalfEven_le a
    have bottom := @le_roundHalfEven b (by omega)
    omega
  · rw [same]
    exact Nat.add_le_add_left (roundHalfEven_mono ordered _) _

theorem nearestBits_mono {a b : Nat} (ordered : a ≤ b) : nearestBits a 1 ≤ nearestBits b 1 := by
  have bits := gridBits_mono (Nat.mul_le_mul_right (2 ^ 1074) ordered)
  rw [nearestBits_one, nearestBits_one]
  omega

/-- The magnitude that bits without a sign stand for, in units. -/
def unitsOf (bits : Nat) : Nat :=
  (if bits / 2 ^ 52 = 0 then bits % 2 ^ 52 else 2 ^ 52 + bits % 2 ^ 52) * 2 ^ (bits / 2 ^ 52 - 1)

theorem carried (e : Nat) : 2 ^ 52 * 2 ^ (e + 1) = 2 ^ 53 * 2 ^ e := by
  rw [← Nat.pow_add, ← Nat.pow_add, Nat.add_comm 53, Nat.add_comm 52]

theorem unitsOf_le (bits : Nat) : unitsOf bits ≤ 2 ^ 52 * 2 ^ (bits / 2 ^ 52) := by
  have small : bits % 2 ^ 52 < 2 ^ 52 := Nat.mod_lt _ (Nat.two_pow_pos 52)
  unfold unitsOf
  cases bits / 2 ^ 52 with
  | zero =>
    rw [if_pos rfl]
    omega
  | succ e =>
    rw [if_neg (Nat.succ_ne_zero e), Nat.add_sub_cancel, carried]
    exact Nat.mul_le_mul_right _ (by omega)

theorem unitsOf_mono {a b : Nat} (ordered : a ≤ b) : unitsOf a ≤ unitsOf b := by
  have exponents : a / 2 ^ 52 ≤ b / 2 ^ 52 := Nat.div_le_div_right ordered
  rcases Nat.lt_or_eq_of_le exponents with less | same
  · have normal : b / 2 ^ 52 ≠ 0 := by omega
    calc
      unitsOf a ≤ 2 ^ 52 * 2 ^ (a / 2 ^ 52) := unitsOf_le a
      _ ≤ 2 ^ 52 * 2 ^ (b / 2 ^ 52 - 1) :=
        Nat.mul_le_mul_left _ (Nat.pow_le_pow_right (by decide) (by omega))
      _ ≤ unitsOf b := by
        rw [unitsOf, if_neg normal]
        exact Nat.mul_le_mul_right _ (Nat.le_add_right _ _)
  · unfold unitsOf
    rw [same]
    apply Nat.mul_le_mul_right
    split <;> omega

/-- The number with such a magnitude and a sign. -/
def signed (negative : Bool) (bits : Nat) : Double :=
  ⟨(bits + if negative then 1 <<< 63 else 0).toUInt64⟩

section

variable {bits : Nat} (bounded : bits ≤ infinityBits) (negative : Bool)
include bounded

theorem toNat_signed :
    (signed negative bits).bits.toNat = bits + if negative then 2 ^ 63 else 0 := by
  have top : bits ≤ 2047 * 2 ^ 52 := bounded
  rw [signed]
  change (UInt64.ofNat _).toNat = _
  rw [UInt64.toNat_ofNat_of_lt']
  · cases negative <;> rfl
  · cases negative
    · change bits + 0 < 2 ^ 64
      omega
    · change bits + 2 ^ 63 < 2 ^ 64
      omega

theorem isNegative_signed : (signed negative bits).isNegative = negative := by
  have top : bits ≤ 2047 * 2 ^ 52 := bounded
  rw [isNegative, toNat_signed bounded, Nat.testBit_eq_decide_div_mod_eq]
  cases negative
  · rw [if_neg (by decide), decide_eq_false_iff_not]
    omega
  · rw [if_pos rfl, decide_eq_true_eq]
    omega

theorem exponentField_signed : (signed negative bits).exponentField = bits / 2 ^ 52 := by
  have top : bits ≤ 2047 * 2 ^ 52 := bounded
  rw [exponentField, toNat_signed bounded, Nat.shiftRight_eq_div_pow]
  split <;> omega

theorem fraction_signed : (signed negative bits).fraction = bits % 2 ^ 52 := by
  rw [fraction, toNat_signed bounded, Nat.one_shiftLeft]
  split <;> omega

theorem magnitude_signed : (signed negative bits).magnitude = unitsOf bits := by
  rw [magnitude, significand, shift, exponentField_signed bounded, fraction_signed bounded,
    Nat.shiftLeft_eq]
  rfl

theorem isNaN_signed : (signed negative bits).isNaN = false := by
  have top : bits ≤ 2047 * 2 ^ 52 := bounded
  rw [isNaN, exponentField_signed bounded, fraction_signed bounded, Bool.and_eq_false_imp, beq_iff_eq,
    bne_eq_false_iff_eq]
  omega

end

theorem nearestBits_le (num den : Nat) : nearestBits num den ≤ infinityBits := Nat.min_le_right _ _

theorem isNaN_ofInt (n : Int) : (ofInt n).isNaN = false :=
  isNaN_signed (nearestBits_le n.natAbs 1) _

theorem units_ofInt (n : Int) :
    (ofInt n).units = if n < 0 then -(unitsOf (nearestBits n.natAbs 1) : Int)
      else unitsOf (nearestBits n.natAbs 1) := by
  have bounded := nearestBits_le n.natAbs 1
  change (signed (decide (n < 0)) (nearestBits n.natAbs 1)).units = _
  rw [units, isNegative_signed bounded, magnitude_signed bounded]
  simp only [decide_eq_true_eq]

theorem units_ofInt_mono {m n : Int} (ordered : m ≤ n) : (ofInt m).units ≤ (ofInt n).units := by
  have magnitudes {a b : Nat} (less : a ≤ b) :
      unitsOf (nearestBits a 1) ≤ unitsOf (nearestBits b 1) := unitsOf_mono (nearestBits_mono less)
  rw [units_ofInt, units_ofInt]
  split <;> split
  · have less := @magnitudes n.natAbs m.natAbs (by omega)
    omega
  · omega
  · omega
  · have less := @magnitudes m.natAbs n.natAbs (by omega)
    omega

theorem compare?_of_isNaN {x y : Double} (hx : x.isNaN = false) (hy : y.isNaN = false) :
    x.compare? y = some (compare x.units y.units) := by
  rw [compare?, hx, hy]
  rfl

theorem compare?_swap (x y : Double) : y.compare? x = (x.compare? y).map Ordering.swap := by
  rw [compare?, compare?, Bool.or_comm]
  split
  · rfl
  · exact congrArg some Std.OrientedOrd.eq_swap

theorem equal_iff {x y : Double} :
    x.equal y = true ↔ x.isNaN = false ∧ y.isNaN = false ∧ x.units = y.units := by
  rw [equal, compare?, beq_iff_eq]
  cases x.isNaN <;> cases y.isNaN <;> simp

/-- A carry is counted in the exponent, and no more than that is lost by it. -/
theorem unitsOf_gridBits_eq {n : Nat} (large : 0 < n.log2 - 52) :
    unitsOf (gridBits n) = roundHalfEven n (2 ^ (n.log2 - 52)) * 2 ^ (n.log2 - 52) := by
  have low := le_roundHalfEven large
  have high := roundHalfEven_le n
  have bits : gridBits n = (n.log2 - 52) * 2 ^ 52 + roundHalfEven n (2 ^ (n.log2 - 52)) := rfl
  generalize roundHalfEven n (2 ^ (n.log2 - 52)) = q at low high bits ⊢
  rcases Nat.lt_or_eq_of_le high with below | top
  · have exponent : gridBits n / 2 ^ 52 = n.log2 - 52 + 1 := by omega
    have fraction : gridBits n % 2 ^ 52 = q - 2 ^ 52 := by omega
    rw [unitsOf, exponent, fraction, if_neg (Nat.succ_ne_zero _), Nat.add_sub_cancel,
      Nat.add_sub_of_le low]
  · have exponent : gridBits n / 2 ^ 52 = n.log2 - 52 + 1 + 1 := by omega
    have fraction : gridBits n % 2 ^ 52 = 0 := by omega
    rw [unitsOf, exponent, fraction, if_neg (Nat.succ_ne_zero _), Nat.add_sub_cancel, top]
    exact carried _

/-- What the grid holds is not rounded. -/
theorem unitsOf_gridBits {n : Nat} (large : 0 < n.log2 - 52) (grid : 2 ^ (n.log2 - 52) ∣ n) :
    unitsOf (gridBits n) = n := by
  have scale : 0 < 2 ^ (n.log2 - 52) := Nat.two_pow_pos _
  have remainder : n % 2 ^ (n.log2 - 52) = 0 := Nat.mod_eq_zero_of_dvd grid
  have rounded : roundHalfEven n (2 ^ (n.log2 - 52)) = n / 2 ^ (n.log2 - 52) := by
    rw [roundHalfEven, remainder, if_pos (by omega)]
  rw [unitsOf_gridBits_eq large, rounded, Nat.div_mul_cancel grid]

theorem roundHalfEven_scaled (num den : Nat) {c : Nat} (positive : 0 < c) :
    roundHalfEven (num * c) (den * c) = roundHalfEven num den := by
  have less (a b : Nat) : a * c < b * c ↔ a < b := Nat.mul_lt_mul_right positive
  simp only [roundHalfEven, Nat.mul_div_mul_right _ _ positive, Nat.mul_mod_mul_right,
    ← Nat.mul_assoc 2, less]

theorem log2_scaled {num : Nat} (nonzero : num ≠ 0) (k : Nat) :
    (num * 2 ^ k).log2 = num.log2 + k := by
  have positive : num * 2 ^ k ≠ 0 := Nat.mul_ne_zero nonzero (Nat.ne_of_gt (Nat.two_pow_pos k))
  apply (Nat.log2_eq_iff positive).mpr
  constructor
  · rw [Nat.pow_add]
    exact Nat.mul_le_mul_right _ (Nat.log2_self_le nonzero)
  · rw [Nat.add_right_comm, Nat.pow_add]
    exact Nat.mul_lt_mul_of_pos_right Nat.lt_log2_self (Nat.two_pow_pos k)

theorem log2_le {num : Nat} (nonzero : num ≠ 0) (small : num ≤ 2 ^ 53) : num.log2 ≤ 53 :=
  Nat.lt_succ_iff.mp ((Nat.log2_lt nonzero).mpr (by omega))

/-- Integers of 53 bits lie on the grid, and so does the one above them. -/
theorem grid_of_small {num : Nat} (nonzero : num ≠ 0) (small : num ≤ 2 ^ 53) {k : Nat} (fine : 52 ≤ k) :
    2 ^ ((num * 2 ^ k).log2 - 52) ∣ num * 2 ^ k := by
  rw [log2_scaled nonzero]
  rcases Nat.lt_or_eq_of_le (log2_le nonzero small) with less | top
  · exact Nat.dvd_mul_left_of_dvd (Nat.pow_dvd_pow 2 (by omega)) num
  · have least := Nat.log2_self_le nonzero
    rw [top] at least
    have only : num = 2 ^ 53 := Nat.le_antisymm small least
    rw [top, only, ← Nat.pow_add]
    exact Nat.pow_dvd_pow 2 (by omega)

theorem gridBits_le {n : Nat} (low : n.log2 ≤ 2000) : gridBits n ≤ infinityBits := by
  have carried := roundHalfEven_le n
  change gridBits n ≤ 2047 * 2 ^ 52
  unfold gridBits
  omega

theorem unitsOf_scaled {num : Nat} (small : num ≤ 2 ^ 53) {k : Nat} (fine : 53 ≤ k) (low : k ≤ 1900) :
    unitsOf (min (gridBits (num * 2 ^ k)) infinityBits) = num * 2 ^ k := by
  by_cases zero : num = 0
  · rw [zero, Nat.zero_mul]
    decide
  · have scale := log2_scaled zero k
    have bits := log2_le zero small
    rw [Nat.min_eq_left (gridBits_le (by omega))]
    exact unitsOf_gridBits (by omega) (grid_of_small zero small (by omega))

theorem eq_of_scaled {m n : Int} {k : Nat} (same : m * (2 ^ k : Nat) = n * (2 ^ k : Nat)) : m = n :=
  Int.eq_of_mul_eq_mul_right (Int.natCast_ne_zero.mpr (Nat.ne_of_gt (Nat.two_pow_pos k))) same

theorem units_ofInt_of_small {n : Int} (small : n.natAbs ≤ 2 ^ 53) :
    (ofInt n).units = n * (2 ^ 1074 : Nat) := by
  have unrounded := @unitsOf_scaled n.natAbs small 1074 (by decide) (by decide)
  rw [← nearestBits_one] at unrounded
  rw [units_ofInt, unrounded, Int.natCast_mul]
  split
  · rw [← Int.neg_mul]
    congr 1
    omega
  · congr 1
    omega

/-- A large number of any scale is rounded as an integer is. -/
theorem unitsOf_scaled_of_large {num k : Nat} (large : 52 ≤ num.log2) (fine : 0 < k)
    (low : num.log2 + k ≤ 2000) :
    unitsOf (min (gridBits (num * 2 ^ k)) infinityBits) =
      roundHalfEven num (2 ^ (num.log2 - 52)) * 2 ^ (num.log2 - 52) * 2 ^ k := by
  have nonzero : num ≠ 0 := by
    rintro rfl
    rw [Nat.log2_zero] at large
    omega
  have scale := log2_scaled nonzero k
  have shifted : (num * 2 ^ k).log2 - 52 = num.log2 - 52 + k := by omega
  rw [Nat.min_eq_left (gridBits_le (by omega)), unitsOf_gridBits_eq (by omega), shifted,
    Nat.pow_add, roundHalfEven_scaled _ _ (Nat.two_pow_pos k), Nat.mul_assoc]

/-- A large integer is rounded to 53 bits. -/
theorem units_ofInt_of_large {n : Nat} (large : 52 ≤ n.log2) (low : n.log2 ≤ 900) :
    (ofInt n).units =
      (roundHalfEven n (2 ^ (n.log2 - 52)) * 2 ^ (n.log2 - 52) : Nat) * (2 ^ 1074 : Nat) := by
  have rounded := @unitsOf_scaled_of_large n 1074 large (by decide) (by omega)
  rw [← nearestBits_one] at rounded
  rw [units_ofInt, Int.natAbs_natCast, rounded, if_neg (by omega), Int.natCast_mul]

/-- Both integers are rounded to the double. -/
def Blurs (x : Double) (m n : Int) : Prop :=
  (ofInt m).equal x = true ∧ (ofInt n).equal x = true

/-- Small integers are told apart by their doubles. -/
theorem Blurs.large {x : Double} {m n : Int} (blurs : x.Blurs m n) (distinct : m ≠ n) :
    2 ^ 53 < m.natAbs ∨ 2 ^ 53 < n.natAbs := by
  obtain ⟨_, _, first⟩ := equal_iff.mp blurs.1
  obtain ⟨_, _, second⟩ := equal_iff.mp blurs.2
  apply Decidable.byContradiction
  intro small
  rw [not_or, Nat.not_lt, Nat.not_lt] at small
  rw [← second, units_ofInt_of_small small.1, units_ofInt_of_small small.2] at first
  exact distinct (eq_of_scaled first)

end PolicyGate.Double
