import PolicyGate.Calendar.Civil
import PolicyGate.Text.Numeral

/-!
Instants in UTC, with the civil date and clock they show and their RFC 3339 text in milliseconds.
A second may be followed by a leap second, which is held as nanoseconds from 10 ^ 9 on.
-/
namespace PolicyGate

/-- Seconds since 1970-01-01T00:00:00Z, and nanoseconds. -/
structure Timestamp where
  seconds : Int
  nanos : Nat
deriving DecidableEq, Inhabited

/-- The time of day. Second 60 is a leap second. -/
structure Clock where
  hour : Nat
  minute : Nat
  second : Nat
  nanos : Nat
deriving DecidableEq, Inhabited

def nanosPerSecond : Nat := 1000000000

def Clock.Valid (c : Clock) : Prop :=
  c.hour < 24 ∧ c.minute < 60 ∧ c.second ≤ 60 ∧ c.nanos < nanosPerSecond

instance (c : Clock) : Decidable c.Valid := inferInstanceAs (Decidable (_ ∧ _))

namespace Timestamp

def epochDay : Int := 719528

def date (t : Timestamp) : Civil := Civil.ofDayNumber (t.seconds / 86400 + epochDay)

def clock (t : Timestamp) : Clock :=
  let s := (t.seconds % 86400).toNat
  ⟨s / 3600, s / 60 % 60, s % 60 + t.nanos / nanosPerSecond, t.nanos % nanosPerSecond⟩

/-- The instant of a date and a time of day, if there are such and the year is covered. -/
def ofCivil? (d : Civil) (c : Clock) : Option Timestamp :=
  if d.Valid ∧ Civil.leastYear ≤ d.year ∧ d.year ≤ Civil.greatestYear ∧ c.Valid then
    let leap := c.second / 60
    let s : Nat := c.hour * 3600 + c.minute * 60 + (c.second - leap)
    some ⟨(d.dayNumber - epochDay) * 86400 + s, c.nanos + leap * nanosPerSecond⟩
  else none

/-- Earlier instants come first; a leap second comes after the second it follows. -/
def compare (a b : Timestamp) : Ordering :=
  (Ord.compare a.seconds b.seconds).then (Ord.compare a.nanos b.nanos)

/-- The instant some nanoseconds after the start of a second. -/
def ofNanos (seconds nanos : Int) : Timestamp :=
  ⟨seconds + nanos / nanosPerSecond, (nanos % nanosPerSecond).toNat⟩

/-- The instant a span of nanoseconds later, or earlier if the span is negative. A span that leads on
from a leap second is counted from the second before it, one that leads back is counted from the second
after it, and one of less than a second may stay within it. -/
def after (t : Timestamp) (span : Int) : Timestamp :=
  let nanos := t.nanos + span
  if t.nanos < nanosPerSecond ∨ span ≤ -nanosPerSecond then ofNanos t.seconds nanos
  else if nanos < 2 * nanosPerSecond then ⟨t.seconds, nanos.toNat⟩
  else ofNanos t.seconds (nanos - nanosPerSecond)

/-- A year of at least four digits, with a sign outside 0 to 9999. -/
def yearText (year : Int) : List Char :=
  let digits := Text.padded '0' 4 year.natAbs
  if year < 0 then '-' :: digits else if 9999 < year then '+' :: digits else digits

def dateText (d : Civil) : List Char :=
  yearText d.year ++ '-' :: Text.padded '0' 2 d.month ++ '-' :: Text.padded '0' 2 d.day

def clockText (c : Clock) : List Char :=
  Text.padded '0' 2 c.hour ++ ':' :: Text.padded '0' 2 c.minute ++ ':' :: Text.padded '0' 2 c.second

/-- The RFC 3339 text in UTC; digits beyond the millisecond are cut off. -/
def chars (t : Timestamp) : List Char :=
  dateText t.date ++ 'T' :: clockText t.clock ++
    '.' :: Text.padded '0' 3 (t.clock.nanos / 1000000) ++ ['Z']

def text (t : Timestamp) : String := String.ofList t.chars

end Timestamp
end PolicyGate
