import Mathlib.Algebra.Group.Nat.Defs
import PolicyGate.Proofs.Calendar.Range
import PolicyGate.Proofs.Value.Equality

/-!
Where no NaN is, the order for sorting is total up to ties, and equality that takes `1` and `1.0` for equal
makes classes of ties, but for this: a double may tie with two integers that do not tie with each other.
-/
namespace PolicyGate.Value

theorem compare?_swap (a b : Value) : b.compare? a = (a.compare? b).map Ordering.swap := by
  cases a <;> cases b
  case bool.bool a b => exact congrArg some Std.OrientedOrd.eq_swap
  case string.string a b => exact congrArg some Std.OrientedOrd.eq_swap
  case date.date a b => exact congrArg some Std.OrientedCmp.eq_swap
  case int.int a b => exact congrArg some Std.OrientedOrd.eq_swap
  case int.double n x => exact Double.compare?_swap _ _
  case double.int x n => exact Double.compare?_swap _ _
  case double.double x y => exact Double.compare?_swap _ _
  all_goals rfl

theorem sortCompare_eq (a b : Value) :
    a.sortCompare b = (compare a.rank b.rank).then ((a.compare? b).getD .eq) := rfl

theorem alike_eq (a b : Value) :
    a.alike b = if a.isNumber && b.isNumber then a.compare? b == some .eq else a.same b := rfl

theorem sortCompare_swap (a b : Value) : b.sortCompare a = (a.sortCompare b).swap := by
  rw [sortCompare_eq, sortCompare_eq, Ordering.swap_then, compare?_swap a b, ← Std.OrientedOrd.eq_swap]
  cases a.compare? b <;> rfl

theorem sortCompare_of_rank {a b : Value} (level : a.rank = b.rank) :
    a.sortCompare b = (a.compare? b).getD .eq := by
  rw [sortCompare_eq, level, Std.compare_self]
  rfl

theorem rank_le {a b : Value} (before : a.sortCompare b ≠ .gt) : a.rank ≤ b.rank := by
  apply Nat.not_lt.mp
  intro higher
  apply before
  rw [sortCompare_eq, Nat.compare_eq_gt.mpr higher]
  rfl

/-- A value is of the kind of another. -/
def SameKind (v : Value) : Value → Prop
  | .null => v = .null
  | .bool _ => ∃ p, v = .bool p
  | .int _ => v.isNumber = true
  | .double _ => v.isNumber = true
  | .string _ => ∃ s, v = .string s
  | .date _ => ∃ t, v = .date t
  | .array _ => ∃ items, v = .array items
  | .document _ => ∃ entries, v = .document entries

theorem sameKind_of_rank {v w : Value} (level : v.rank = w.rank) : v.SameKind w := by
  cases w <;> cases v <;> first | cases level; done | exact rfl | exact ⟨_, rfl⟩

theorem compare?_trans {a b c : Value} (noNumber : b.isNumber = false) (ab : a.rank = b.rank)
    (bc : b.rank = c.rank) (first : ((a.compare? b).getD .eq).isLE = true)
    (second : ((b.compare? c).getD .eq).isLE = true) : ((a.compare? c).getD .eq).isLE = true := by
  have left := sameKind_of_rank ab
  have right := sameKind_of_rank bc.symm
  cases b with
  | null =>
    obtain rfl : a = .null := left
    obtain rfl : c = .null := right
    rfl
  | bool q =>
    obtain ⟨p, rfl⟩ := left
    obtain ⟨r, rfl⟩ := right
    exact Std.TransOrd.isLE_trans first second
  | string t =>
    obtain ⟨s, rfl⟩ := left
    obtain ⟨u, rfl⟩ := right
    exact Std.TransOrd.isLE_trans first second
  | date t =>
    obtain ⟨s, rfl⟩ := left
    obtain ⟨u, rfl⟩ := right
    exact @Std.TransCmp.isLE_trans _ Timestamp.compare _ s t u first second
  | array items =>
    obtain ⟨before, rfl⟩ := left
    obtain ⟨after, rfl⟩ := right
    rfl
  | document entries =>
    obtain ⟨before, rfl⟩ := left
    obtain ⟨after, rfl⟩ := right
    rfl
  | int n => cases noNumber
  | double x => cases noNumber

/-- A number, but not NaN. -/
inductive Number : Value → Prop where
  | int (n : Int64) : Number (.int n)
  | double {x : Double} : x.isNaN = false → Number (.double x)

theorem number_of_free {v : Value} (number : v.isNumber = true) (free : v.NaNFree) : v.Number := by
  cases v with
  | int n => exact .int n
  | double x => exact .double (naNFree_double free)
  | _ => cases number

theorem Number.rank {v : Value} (number : v.Number) : v.rank = 1 := by
  cases number <;> rfl

theorem Number.level {a b : Value} (ha : a.Number) (hb : b.Number) : a.rank = b.rank :=
  ha.rank.trans hb.rank.symm

/-- A number in the units of doubles, rounded if it is an integer. -/
def units (v : Value) : Int :=
  match v.double? with
  | some x => x.units
  | none => 0

theorem sortCompare_int (m n : Int64) :
    (Value.int m).sortCompare (.int n) = compare m.toInt n.toInt :=
  sortCompare_of_rank rfl

/-- Two integers compare exactly, other numbers as doubles. -/
theorem compare?_numbers {a b : Value} (ha : a.Number) (hb : b.Number) :
    (∃ m n, a = .int m ∧ b = .int n) ∨ a.compare? b = some (compare a.units b.units) := by
  cases ha with
  | int m =>
    cases hb with
    | int n => exact .inl ⟨m, n, rfl, rfl⟩
    | double hy => exact .inr (Double.compare?_of_isNaN (Double.isNaN_ofInt _) hy)
  | double hx =>
    cases hb with
    | int n => exact .inr (Double.compare?_of_isNaN hx (Double.isNaN_ofInt _))
    | double hy => exact .inr (Double.compare?_of_isNaN hx hy)

theorem sortCompare_numbers {a b : Value} (ha : a.Number) (hb : b.Number) :
    (∃ m n, a = .int m ∧ b = .int n) ∨ a.sortCompare b = compare a.units b.units := by
  rw [sortCompare_of_rank (ha.level hb)]
  rcases compare?_numbers ha hb with integers | compared
  · exact .inl integers
  · rw [compared]
    exact .inr rfl

theorem units_le {a b : Value} (ha : a.Number) (hb : b.Number) (before : a.sortCompare b ≠ .gt) :
    a.units ≤ b.units := by
  rcases sortCompare_numbers ha hb with ⟨m, n, rfl, rfl⟩ | compared
  · rw [sortCompare_int, Int.compare_ne_gt] at before
    exact Double.units_ofInt_mono before
  · rwa [compared, Int.compare_ne_gt] at before

theorem units_eq {a b : Value} (ha : a.Number) (hb : b.Number) (tie : a.sortCompare b = .eq) :
    a.units = b.units := by
  have back := sortCompare_swap a b
  rw [tie] at back
  apply Int.le_antisymm
  · exact units_le ha hb (by rw [tie]; decide)
  · exact units_le hb ha (by rw [back]; decide)

/-- A double stands between two integers that both are rounded to it. -/
def Straddled (differ : Int → Int → Prop) (a b c : Value) : Prop :=
  ∃ m n x, a = .int m ∧ b = .double x ∧ c = .int n ∧ differ m.toInt n.toInt ∧ x.Blurs m.toInt n.toInt

theorem straddled_of_units {differ : Int → Int → Prop} {m n : Int64} {x : Double}
    (number : x.isNaN = false) (different : differ m.toInt n.toInt)
    (first : (Value.int m).units = (Value.double x).units)
    (last : (Value.int n).units = (Value.double x).units) :
    Straddled differ (.int m) (.double x) (.int n) := by
  refine ⟨m, n, x, rfl, rfl, rfl, different, ?_, ?_⟩
  · exact Double.equal_iff.mpr ⟨Double.isNaN_ofInt _, number, first⟩
  · exact Double.equal_iff.mpr ⟨Double.isNaN_ofInt _, number, last⟩

theorem Straddled.ties {differ : Int → Int → Prop} {a b c : Value} (straddled : Straddled differ a b c) :
    a.compare? b = some .eq ∧ b.compare? c = some .eq := by
  obtain ⟨m, n, x, rfl, rfl, rfl, _, first, last⟩ := straddled
  have back : (Value.double x).compare? (.int n) = ((Double.ofInt n.toInt).compare? x).map Ordering.swap :=
    Double.compare?_swap _ _
  rw [beq_iff_eq.mp last] at back
  exact ⟨beq_iff_eq.mp first, back⟩

theorem Straddled.large {a b c : Value} (straddled : Straddled (· ≠ ·) a b c) :
    ∃ m, (a = .int m ∨ c = .int m) ∧ 2 ^ 53 < m.toInt.natAbs := by
  obtain ⟨m, n, x, rfl, rfl, rfl, different, blurs⟩ := straddled
  rcases blurs.large different with large | large
  · exact ⟨m, .inl rfl, large⟩
  · exact ⟨n, .inr rfl, large⟩

theorem straddled_of_sortCompare {a b c : Value} (ha : a.Number) (hb : b.Number) (hc : c.Number)
    (first : a.sortCompare b ≠ .gt) (second : b.sortCompare c ≠ .gt)
    (broken : a.sortCompare c = .gt) : Straddled (fun m n => n < m) a b c := by
  have up := units_le ha hb first
  have further := units_le hb hc second
  rcases sortCompare_numbers ha hc with ⟨m, n, rfl, rfl⟩ | compared
  · rw [sortCompare_int, Int.compare_eq_gt] at broken
    have down : (Value.int n).units ≤ (Value.int m).units :=
      Double.units_ofInt_mono (Int.le_of_lt broken)
    cases hb with
    | int k =>
      rw [sortCompare_int, Int.compare_ne_gt] at first second
      omega
    | double number => exact straddled_of_units number broken (by omega) (by omega)
  · rw [compared, Int.compare_eq_gt] at broken
    omega

theorem straddled_of_ties {a b c : Value} (ha : a.Number) (hb : b.Number) (hc : c.Number)
    (first : a.sortCompare b = .eq) (second : b.sortCompare c = .eq)
    (broken : a.sortCompare c ≠ .eq) : Straddled (· ≠ ·) a b c := by
  have left := units_eq ha hb first
  have right := units_eq hb hc second
  rcases sortCompare_numbers ha hc with ⟨m, n, rfl, rfl⟩ | compared
  · rw [sortCompare_int, ne_eq, Int.compare_eq_eq] at broken
    cases hb with
    | int k =>
      rw [sortCompare_int, Int.compare_eq_eq] at first second
      exact absurd (first.trans second) broken
    | double number => exact straddled_of_units number broken left right.symm
  · rw [compared, left, right] at broken
    exact absurd Std.compare_self broken

/-- Values of the kind of a number are numbers. -/
theorem numbers_of_rank {a b c : Value} (freeA : a.NaNFree) (freeB : b.NaNFree) (freeC : c.NaNFree)
    (ab : a.rank = b.rank) (bc : b.rank = c.rank) (number : b.isNumber = true) :
    a.Number ∧ b.Number ∧ c.Number := by
  have rank := beq_iff_eq.mp number
  exact ⟨number_of_free (beq_iff_eq.mpr (ab.trans rank)) freeA, number_of_free number freeB,
    number_of_free (beq_iff_eq.mpr (bc.symm.trans rank)) freeC⟩

section

variable {a b c : Value} (freeA : a.NaNFree) (freeB : b.NaNFree) (freeC : c.NaNFree)
include freeA freeB freeC

/-- The order for sorting is transitive, unless a double stands between two integers in descending order
that both are rounded to it. -/
theorem sortCompare_not_trans_iff :
    (a.sortCompare b ≠ .gt ∧ b.sortCompare c ≠ .gt ∧ a.sortCompare c = .gt) ↔
      Straddled (fun m n => n < m) a b c := by
  constructor
  · rintro ⟨first, second, broken⟩
    -- Ranks do not fall along a, b, c and back to a, so the three values are of one kind.
    have turned : c.sortCompare a ≠ .gt := by
      rw [sortCompare_swap, broken]
      decide
    have ab : a.rank = b.rank :=
      Nat.le_antisymm (rank_le first) (Nat.le_trans (rank_le second) (rank_le turned))
    have bc : b.rank = c.rank :=
      Nat.le_antisymm (rank_le second) (Nat.le_trans (rank_le turned) (rank_le first))
    cases number : b.isNumber with
    | true =>
      obtain ⟨ha, hb, hc⟩ := numbers_of_rank freeA freeB freeC ab bc number
      exact straddled_of_sortCompare ha hb hc first second broken
    | false =>
      rw [sortCompare_of_rank ab] at first
      rw [sortCompare_of_rank bc] at second
      have kept := compare?_trans number ab bc (Ordering.isLE_iff_ne_gt.mpr first)
        (Ordering.isLE_iff_ne_gt.mpr second)
      rw [← sortCompare_of_rank (ab.trans bc), broken] at kept
      cases kept
  · intro straddled
    obtain ⟨first, second⟩ := straddled.ties
    obtain ⟨m, n, x, rfl, rfl, rfl, descending, _⟩ := straddled
    refine ⟨?_, ?_, ?_⟩
    · have tie := @sortCompare_of_rank (.int m) (.double x) rfl
      rw [tie, first]
      decide
    · have tie := @sortCompare_of_rank (.double x) (.int n) rfl
      rw [tie, second]
      decide
    · rw [sortCompare_int]
      exact Int.compare_eq_gt.mpr descending

end

theorem compare?_eq_of_same {a b : Value} (equal : a.same b = true) :
    (a.compare? b).getD .eq = .eq := by
  cases a with
  | double x =>
    obtain ⟨y, rfl, numbers⟩ := same_double.mp equal
    exact congrArg (Option.getD · .eq) (beq_iff_eq.mp numbers)
  | array items =>
    obtain ⟨others, rfl, _⟩ := same_array.mp equal
    rfl
  | document entries =>
    obtain ⟨others, rfl, _⟩ := same_document.mp equal
    rfl
  | null =>
    obtain rfl := (same_leaf rfl (by simp)).mp equal
    rfl
  | date t =>
    obtain rfl := (same_leaf rfl (by simp)).mp equal
    exact congrArg (Option.getD · .eq) (congrArg some (@Std.ReflCmp.compare_self _ Timestamp.compare _ t))
  | _ =>
    obtain rfl := (same_leaf rfl (by simp)).mp equal
    exact Std.compare_self

theorem sortCompare_self {a : Value} (free : a.NaNFree) : a.sortCompare a = .eq := by
  rw [sortCompare_of_rank rfl]
  exact compare?_eq_of_same (same_refl free)

theorem alike_others {a b : Value} (noNumber : (a.isNumber && b.isNumber) = false) :
    a.alike b = a.same b := by
  rw [alike_eq, noNumber]
  rfl

theorem alike_numbers {a b : Value} (ha : a.Number) (hb : b.Number) :
    a.alike b = true ↔ a.sortCompare b = .eq := by
  have both : (a.isNumber && b.isNumber) = true := by
    change (a.rank == 1 && b.rank == 1) = true
    rw [ha.rank, hb.rank]
    rfl
  rw [alike_eq, both, if_pos rfl, beq_iff_eq, sortCompare_of_rank (ha.level hb)]
  rcases compare?_numbers ha hb with ⟨m, n, rfl, rfl⟩ | compared
  · exact Option.some_inj
  · rw [compared]
    exact Option.some_inj

/-- Values that are alike tie. -/
theorem sortCompare_of_alike {a b : Value} (equal : a.alike b = true) : a.sortCompare b = .eq := by
  rw [alike_eq] at equal
  split at equal
  · rename_i numbers
    obtain ⟨ha, hb⟩ := Bool.and_eq_true_iff.mp numbers
    have level : a.rank = b.rank := (beq_iff_eq.mp ha).trans (beq_iff_eq.mp hb).symm
    rw [sortCompare_of_rank level, beq_iff_eq.mp equal]
    rfl
  · rw [sortCompare_of_rank (rank_of_same equal)]
    exact compare?_eq_of_same equal

theorem rank_of_alike {a b : Value} (equal : a.alike b = true) : a.rank = b.rank := by
  have tie := sortCompare_of_alike equal
  have back := sortCompare_swap a b
  rw [tie] at back
  exact Nat.le_antisymm (rank_le (by rw [tie]; decide)) (rank_le (by rw [back]; decide))

theorem alike_refl {a : Value} (free : a.NaNFree) : a.alike a = true := by
  cases number : a.isNumber with
  | true =>
    have number := number_of_free number free
    exact (alike_numbers number number).mpr (sortCompare_self free)
  | false =>
    rw [alike_others (by rw [number]; rfl)]
    exact same_refl free

theorem alike_symm {a b : Value} (equal : a.alike b = true) : b.alike a = true := by
  rw [alike_eq] at equal ⊢
  rw [Bool.and_comm b.isNumber]
  split at equal
  · rename_i numbers
    rw [numbers, if_pos rfl, compare?_swap a b, beq_iff_eq.mp equal]
    rfl
  · rename_i noNumbers
    rw [if_neg noNumbers]
    exact same_symm equal

theorem alike_comm (a b : Value) : b.alike a = a.alike b :=
  Bool.eq_iff_iff.mpr ⟨alike_symm, alike_symm⟩

section

variable {a b c : Value} (freeA : a.NaNFree) (freeB : b.NaNFree) (freeC : c.NaNFree)
include freeA freeB freeC

/-- Equality that takes `1` and `1.0` for equal is transitive, unless a double stands between two
integers that both are rounded to it. -/
theorem alike_not_trans_iff :
    (a.alike b = true ∧ b.alike c = true ∧ a.alike c = false) ↔ Straddled (· ≠ ·) a b c := by
  constructor
  · rintro ⟨first, second, broken⟩
    have ab := rank_of_alike first
    have bc := rank_of_alike second
    cases number : b.isNumber with
    | true =>
      obtain ⟨ha, hb, hc⟩ := numbers_of_rank freeA freeB freeC ab bc number
      rw [alike_numbers ha hb] at first
      rw [alike_numbers hb hc] at second
      rw [← Bool.not_eq_true, alike_numbers ha hc] at broken
      exact straddled_of_ties ha hb hc first second broken
    | false =>
      have noA : a.isNumber = false := (congrArg (· == 1) ab).trans number
      rw [alike_others (by rw [noA]; rfl)] at first broken
      rw [alike_others (by rw [number]; rfl)] at second
      rw [same_trans first second] at broken
      cases broken
  · intro straddled
    obtain ⟨first, second⟩ := straddled.ties
    obtain ⟨m, n, x, rfl, rfl, rfl, different, _⟩ := straddled
    refine ⟨beq_iff_eq.mpr first, beq_iff_eq.mpr second, ?_⟩
    rw [← Bool.not_eq_true, alike_numbers (.int m) (.int n), sortCompare_int, Int.compare_eq_eq]
    exact different

/-- Where no NaN is, the order for sorting is total up to ties, and values that are alike make classes of
ties. Only this fails: a double to which two integers are rounded ties with both, though they do not tie;
one of them has more than 53 bits then. -/
theorem total_unless_straddled :
    (a.sortCompare a = .eq ∧ b.sortCompare a = (a.sortCompare b).swap ∧
        ((a.sortCompare b ≠ .gt ∧ b.sortCompare c ≠ .gt ∧ a.sortCompare c = .gt) ↔
          Straddled (fun m n => n < m) a b c)) ∧
      (a.alike a = true ∧ b.alike a = a.alike b ∧
        ((a.alike b = true ∧ b.alike c = true ∧ a.alike c = false) ↔ Straddled (· ≠ ·) a b c)) ∧
      (a.alike b = true → a.sortCompare b = .eq) ∧
      (Straddled (· ≠ ·) a b c → ∃ m, (a = .int m ∨ c = .int m) ∧ 2 ^ 53 < m.toInt.natAbs) := by
  refine ⟨⟨sortCompare_self freeA, sortCompare_swap a b, ?_⟩, ⟨alike_refl freeA, alike_comm a b, ?_⟩,
    sortCompare_of_alike, Straddled.large⟩
  · exact sortCompare_not_trans_iff freeA freeB freeC
  · exact alike_not_trans_iff freeA freeB freeC

end

/-- The double `2 ^ 53`, to which the integer above it is rounded as well. -/
def widest : Double := ⟨0x4340000000000000⟩

theorem total_unless_straddled_widest :
    Straddled (fun m n => n < m) (.int 9007199254740993) (.double widest) (.int 9007199254740992) ∧
      Straddled (· ≠ ·) (.int 9007199254740993) (.double widest) (.int 9007199254740992) := by
  have integer (n : Int64) : (Value.int n).NaNFree := naNFree_leaf rfl (by simp)
  have double : (Value.double widest).NaNFree := by
    apply naNFree_leaf rfl
    intro x same
    cases same
    decide
  obtain ⟨⟨_, _, ordered⟩, ⟨_, _, equal⟩, _⟩ :=
    total_unless_straddled (integer 9007199254740993) double (integer 9007199254740992)
  exact ⟨ordered.mp (by decide +kernel), equal.mp (by decide +kernel)⟩

/-- Neither the order nor the equality is transitive. -/
theorem not_transitive_at_widest :
    widest.isFinite = true ∧
      (Value.int 9007199254740993).sortCompare (.double widest) ≠ .gt ∧
      (Value.double widest).sortCompare (.int 9007199254740992) ≠ .gt ∧
      (Value.int 9007199254740993).sortCompare (.int 9007199254740992) = .gt ∧
      (Value.int 9007199254740993).alike (.double widest) = true ∧
      (Value.double widest).alike (.int 9007199254740992) = true ∧
      (Value.int 9007199254740993).alike (.int 9007199254740992) = false := by
  decide +kernel

end PolicyGate.Value
