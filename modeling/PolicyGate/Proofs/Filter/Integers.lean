import Mathlib.Algebra.Group.Int.Defs
import PolicyGate.Proofs.Filter.Rewording
import PolicyGate.Proofs.Value.Order
import PolicyGate.Value.Json

/-!
Filters that ask a field for an integer. Integers of 64 bits with a sign are told apart. From `2 ^ 63` on an
integer is a double, and rounded as one.
-/
namespace PolicyGate

namespace Value

variable {m n : Int}

/-- The integer fits into 64 bits with a sign. -/
def FitsInt (n : Int) : Prop := -2 ^ 63 ≤ n ∧ n < 2 ^ 63

instance : Decidable (FitsInt n) := inferInstanceAs (Decidable (-2 ^ 63 ≤ n ∧ n < 2 ^ 63))

theorem toInt_ofInt_of_fits (fits : FitsInt n) : (Int64.ofInt n).toInt = n :=
  Int64.toInt_ofInt_of_le fits.1 fits.2

theorem ofInteger_eq (n : Int) :
    ofInteger n = if FitsInt n then .int (Int64.ofInt n) else .double (Double.ofInt n) := by
  have bounds : Int64.minValue.toInt ≤ n ∧ n ≤ Int64.maxValue.toInt ↔ FitsInt n :=
    and_congr_right fun _ => show n ≤ 2 ^ 63 - 1 ↔ n < 2 ^ 63 from Int.le_sub_one_iff
  simp only [ofInteger, bounds]

theorem number_ofInteger (n : Int) : (ofInteger n).Number := by
  rw [ofInteger_eq]
  split
  · exact .int _
  · exact .double (Double.isNaN_ofInt n)

theorem units_ofInteger (n : Int) : (ofInteger n).units = (Double.ofInt n).units := by
  rw [ofInteger_eq]
  split
  · rename_i fits
    simp [units, double?, toInt_ofInt_of_fits fits]
  · rfl

/-- Two integers are alike if they are equal, but as soon as one of them has to be a double, if they are
rounded to the same. -/
theorem alike_ofInteger : (ofInteger n).alike (ofInteger m) = true ↔
    if FitsInt n ∧ FitsInt m then n = m else (Double.ofInt n).units = (Double.ofInt m).units := by
  rw [alike_numbers (number_ofInteger n) (number_ofInteger m)]
  by_cases both : FitsInt n ∧ FitsInt m
  · obtain ⟨fitsN, fitsM⟩ := both
    simp only [ofInteger_eq, fitsN, fitsM, and_self, if_true, sortCompare_int, toInt_ofInt_of_fits,
      Int.compare_eq_eq]
  · rw [if_neg both, ← units_ofInteger, ← units_ofInteger]
    rcases sortCompare_numbers (number_ofInteger n) (number_ofInteger m) with ⟨a, b, first, last⟩ | compared
    · rw [ofInteger_eq] at first last
      split at first <;> split at last
      all_goals simp_all
    · rw [compared, Int.compare_eq_eq]

end Value

namespace Double

theorem units_ofInt_above {n : Int} (above : 2 ^ 63 ≤ n) (below : n < 2 ^ 64) :
    (ofInt n).units = (roundHalfEven n.toNat 2048 * 2048 : Nat) * (2 ^ 1074 : Nat) := by
  obtain ⟨k, rfl⟩ := Int.eq_ofNat_of_zero_le (show 0 ≤ n by omega)
  have bits : k.log2 = 63 := (Nat.log2_eq_iff (by omega)).mpr ⟨by omega, by omega⟩
  have rounded := @units_ofInt_of_large k (by omega) (by omega)
  rwa [bits] at rounded

/-- The doubles of two integers on either side of `2 ^ 63` are the same only in its neighbourhood. -/
theorem near_of_units_eq {m n : Int} (low : n < 2 ^ 63) (high : 2 ^ 63 ≤ m)
    (same : (ofInt n).units = (ofInt m).units) : 2 ^ 63 - 512 ≤ n ∧ m ≤ 2 ^ 63 + 1024 := by
  have edge : (ofInt (2 ^ 63 - 513)).units < (ofInt (2 ^ 63)).units ∧
      (ofInt (2 ^ 63)).units < (ofInt (2 ^ 63 + 1025)).units := by
    decide +kernel
  have up := units_ofInt_mono (show n ≤ 2 ^ 63 by omega)
  have on := units_ofInt_mono high
  refine ⟨Int.not_lt.mp fun far => ?_, Int.not_lt.mp fun far => ?_⟩
  · have below := units_ofInt_mono (show n ≤ 2 ^ 63 - 513 by omega)
    omega
  · have above := units_ofInt_mono (show 2 ^ 63 + 1025 ≤ m by omega)
    omega

end Double

namespace Filter

variable {field : String} {m n : Int}

/-- A document, or a filter, with one member. -/
def single (field : String) (x : Json) : Document := Value.membersOfJson [] [(field, x)]

/-- The ways to ask a field for an integer. -/
def asking (m : Int) : List Json :=
  [.int m, .object [("$eq", .int m)], .object [("$in", .array [.int m])]]

theorem equals_number {v : Value} (number : v.Number) (w : Value) :
    equals (some v) w = v.alike w := by
  cases number <;> rfl

theorem holds_asking (plain : '.' ∉ field.toList) (named : isOperatorName field = false)
    {condition : Json} (asked : condition ∈ asking m) :
    holds (single field (.int n)) (single field condition) =
      .ok ((Value.ofInteger n).alike (Value.ofInteger m)) := by
  have value : Document.resolve? (single field (.int n)) field = some (Value.ofInteger n) := by
    simp [Document.resolve?_plain _ plain, single, Value.membersOfJson, Value.ofJson, Fields.insert,
      Fields.get?]
  have number := Value.number_ofInteger n
  have put {name : String} (operator : isOperatorName name = true) (proper : name ≠ "$options")
      (direct : name ≠ "$not") (operand : Value) :
      holds (single field (.int n)) [(field, .document [(name, operand)])] =
        appliesTo (some (Value.ofInteger n)) name operand (options [(name, operand)]) :=
    value ▸ holds_ask_plain named operator proper direct operand
  simp only [asking, List.mem_cons, List.not_mem_nil, or_false] at asked
  rcases asked with rfl | rfl | rfl
  · have literal : single field (.int m) = [(field, Value.ofInteger m)] := rfl
    rw [literal, holds_single, entryHolds_field (not_isConnective named) named, value,
      fieldHolds_literal, equals_number number]
    intro operators same
    cases same ▸ Value.number_ofInteger m
  · refine (put (by decide) (by decide) (by decide) (Value.ofInteger m)).trans ?_
    exact congrArg Except.ok (equals_number number _)
  · refine (put (by decide) (by decide) (by decide) (.array [Value.ofInteger m])).trans ?_
    simp [appliesTo, isIn, equals_number number]

/-- What a filter that asks a field for an integer answers on a document with another integer there. Up to
`2 ^ 63 - 1` it tells them apart. From `2 ^ 63` on it takes them for equal if they are rounded to the same
multiple of 2048. It may confuse one below `2 ^ 63` with one above only if both are near to it. -/
theorem integers_told_apart (hn : -2 ^ 63 ≤ n ∧ n < 2 ^ 64) (hm : -2 ^ 63 ≤ m ∧ m < 2 ^ 64)
    (plain : '.' ∉ field.toList) (named : field.toList.head? ≠ some '$') :
    ∃ answer, (∀ condition ∈ asking m,
        holds (single field (.int n)) (single field condition) = .ok answer) ∧
      (n < 2 ^ 63 → m < 2 ^ 63 → (answer = true ↔ n = m)) ∧
      (2 ^ 63 ≤ n → 2 ^ 63 ≤ m → (answer = true ↔
        Double.roundHalfEven n.toNat 2048 = Double.roundHalfEven m.toNat 2048)) ∧
      (min n m < 2 ^ 63 → 2 ^ 63 ≤ max n m → answer = true →
        2 ^ 63 - 512 ≤ min n m ∧ max n m ≤ 2 ^ 63 + 1024) := by
  have field : isOperatorName field = false := beq_eq_false_iff_ne.mpr named
  refine ⟨_, fun condition asked => holds_asking plain field asked, ?_, ?_, ?_⟩
  all_goals rw [Value.alike_ofInteger]
  · intro low low'
    rw [if_pos ⟨⟨hn.1, low⟩, hm.1, low'⟩]
  · intro high high'
    have beyond : ¬ (Value.FitsInt n ∧ Value.FitsInt m) := fun fit => Int.not_lt.mpr high fit.1.2
    rw [if_neg beyond, Double.units_ofInt_above high hn.2, Double.units_ofInt_above high' hm.2]
    constructor
    · intro same
      have multiples := Double.eq_of_scaled same
      omega
    · intro same
      rw [same]
  · intro low high
    have beyond : ¬ (Value.FitsInt n ∧ Value.FitsInt m) := by
      rintro ⟨first, last⟩
      exact Int.not_lt.mpr high (Int.max_lt.mpr ⟨first.2, last.2⟩)
    rw [if_neg beyond]
    intro same
    rcases Int.le_total n m with ordered | ordered
    · simp only [Int.min_eq_left ordered, Int.max_eq_right ordered] at low high ⊢
      exact Double.near_of_units_eq low high same
    · simp only [Int.min_eq_right ordered, Int.max_eq_left ordered] at low high ⊢
      exact Double.near_of_units_eq low high same.symm

/-- As doubles, the first two integers would be the same. -/
theorem integers_told_apart_tenants :
    '.' ∉ "tenant".toList ∧ "tenant".toList.head? ≠ some '$' ∧
      (∀ condition ∈ asking (2 ^ 53), holds (single "tenant" (.int (2 ^ 53 + 1)))
        (single "tenant" condition) = .ok false) ∧
      ∀ condition ∈ asking (2 ^ 63 + 3000), holds (single "tenant" (.int (2 ^ 63 + 1000)))
        (single "tenant" condition) = .ok false := by
  have plain : '.' ∉ "tenant".toList := by decide
  have named : "tenant".toList.head? ≠ some '$' := by decide
  refine ⟨plain, named, fun condition asked => ?_, fun condition asked => ?_⟩
  · obtain ⟨answer, holds, low, _⟩ := @integers_told_apart "tenant" (2 ^ 53) (2 ^ 53 + 1)
      (by decide) (by decide) plain named
    have differ : answer = false :=
      Bool.eq_false_iff.mpr (mt (low (by decide) (by decide)).mp (by decide))
    rw [holds condition asked, differ]
  · obtain ⟨answer, holds, _, high, _⟩ := @integers_told_apart "tenant" (2 ^ 63 + 3000) (2 ^ 63 + 1000)
      (by decide) (by decide) plain named
    have differ : answer = false :=
      Bool.eq_false_iff.mpr (mt (high (by decide) (by decide)).mp (by decide))
    rw [holds condition asked, differ]

/-- Two integers are rounded to one double. -/
theorem rounded_integers_confused :
    ¬ ∀ (n m : Int) (field : String), -2 ^ 63 ≤ n ∧ n < 2 ^ 64 → -2 ^ 63 ≤ m ∧ m < 2 ^ 64 →
      '.' ∉ field.toList → field.toList.head? ≠ some '$' → ∀ condition ∈ asking m,
        (holds (single field (.int n)) (single field condition) = .ok true ↔ n = m) := by
  intro law
  have told := law (2 ^ 63) (2 ^ 63 + 1) "tenant" (by decide) (by decide) (by decide) (by decide)
    (.int (2 ^ 63 + 1)) List.mem_cons_self
  have alike : (Value.ofInteger (2 ^ 63)).alike (Value.ofInteger (2 ^ 63 + 1)) = true := by
    decide +kernel
  rw [holds_asking (by decide) (by decide) List.mem_cons_self, alike] at told
  exact absurd (told.mp rfl) (by decide)

end Filter
end PolicyGate
