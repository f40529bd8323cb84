import PolicyGate.Proofs.Calendar.Range

/-!
Days and dates: each day has one date, which is a date of the calendar, and the date leads back to
the day.
-/
namespace PolicyGate.Civil

variable (leap : Bool) (offset : Nat)

end PolicyGate.Civil
