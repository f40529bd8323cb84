import PolicyGate.Calendar.Timestamp

/-!
The order of instants, and the instants that the calendar covers: those from the first second of its first
year to the last second of its last.
-/
namespace PolicyGate

namespace Civil

theorem yearStart_mono {a b : Int} (ordered : a ≤ b) : yearStart a ≤ yearStart b := by
  unfold yearStart
  omega

/-- A day lies in its year. -/
theorem yearOf_spec (day : Int) :
    yearStart (yearOf day) ≤ day ∧ day < yearStart (yearOf day + 1) := by
  have below : yearStart (day * 400 / 146097 - 1) ≤ day := by
    unfold yearStart
    omega
  have above : day < yearStart (day * 400 / 146097 + 1 + 1) := by
    unfold yearStart
    omega
  unfold yearOf
  dsimp only
  split
  · rename_i early
    refine ⟨below, ?_⟩
    rwa [Int.sub_add_cancel]
  split
  · rename_i late
    exact ⟨late, above⟩
  · rename_i early late
    exact ⟨Int.not_lt.mp early, Int.not_le.mp late⟩

theorem le_yearOf_iff {year day : Int} : year ≤ yearOf day ↔ yearStart year ≤ day := by
  obtain ⟨started, notOver⟩ := yearOf_spec day
  constructor
  · intro ordered
    exact Int.le_trans (yearStart_mono ordered) started
  · intro begun
    apply Int.not_lt.mp
    intro later
    have next : yearStart (yearOf day + 1) ≤ yearStart year := yearStart_mono later
    omega

end Civil

namespace Timestamp

instance : Std.TransCmp compare :=
  inferInstanceAs (Std.TransCmp (compareLex (compareOn seconds) (compareOn nanos)))

/-- One instant is earlier than another. A leap second comes after the second that it follows. -/
def Before (a b : Timestamp) : Prop :=
  a.seconds < b.seconds ∨ a.seconds = b.seconds ∧ a.nanos < b.nanos

theorem compare_eq_gt {a b : Timestamp} : a.compare b = .gt ↔ b.Before a := by
  rw [compare, Ordering.then_eq_gt, Int.compare_eq_gt, Int.compare_eq_eq, Nat.compare_eq_gt, Before,
    eq_comm]

theorem Before.trans {a b c : Timestamp} (first : a.Before b) (second : b.Before c) :
    a.Before c := by
  unfold Before at *
  omega

/-- Outside leap seconds a span leads on by as many nanoseconds as it has. -/
theorem after_total {t : Timestamp} (settled : t.nanos < nanosPerSecond) (span : Int) :
    (t.after span).nanos < nanosPerSecond ∧
      (t.after span).seconds * nanosPerSecond + (t.after span).nanos =
        t.seconds * nanosPerSecond + t.nanos + span := by
  have led : t.after span = ofNanos t.seconds (t.nanos + span) := if_pos (.inl settled)
  rw [led, ofNanos, nanosPerSecond]
  dsimp only
  omega

/-- The calendar has a date for the instant. -/
def Covered (t : Timestamp) : Prop :=
  Civil.leastYear ≤ t.date.year ∧ t.date.year ≤ Civil.greatestYear

instance (t : Timestamp) : Decidable t.Covered := inferInstanceAs (Decidable (_ ∧ _))

theorem covered_iff {t : Timestamp} :
    t.Covered ↔ -8334601228800 ≤ t.seconds ∧ t.seconds ≤ 8210266876799 := by
  have first : Civil.yearStart Civil.leastYear = -95745764 := by decide
  have last : Civil.yearStart (Civil.greatestYear + 1) = 95745765 := by decide
  have begun := @Civil.le_yearOf_iff Civil.leastYear (t.seconds / 86400 + epochDay)
  have ended := @Civil.le_yearOf_iff (Civil.greatestYear + 1) (t.seconds / 86400 + epochDay)
  rw [first, epochDay] at begun
  rw [last, epochDay] at ended
  change Civil.leastYear ≤ Civil.yearOf (t.seconds / 86400 + 719528) ∧
    Civil.yearOf (t.seconds / 86400 + 719528) ≤ Civil.greatestYear ↔ _
  omega

end Timestamp
end PolicyGate
