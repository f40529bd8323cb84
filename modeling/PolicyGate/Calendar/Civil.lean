/-!
The proleptic Gregorian calendar: dates against the count of days from 1 January of year 0, with
weekday, ordinal and ISO week. Years may be negative; year 0 is a leap year.
-/
namespace PolicyGate

structure Civil where
  year : Int
  month : Nat
  day : Nat
deriving DecidableEq, Inhabited

namespace Civil

def isLeap (year : Int) : Bool := year % 4 == 0 && (year % 100 != 0 || year % 400 == 0)

/-- Days from 1 January of year 0 to 1 January of a year: 365 for each year between, and one more
for each leap year among them. -/
def yearStart (year : Int) : Int :=
  365 * year + (year + 3) / 4 - (year + 99) / 100 + (year + 399) / 400

/-- Days of a year before the first day of a month; month 13 gives the length of the year. -/
def monthStart (leap : Bool) (month : Nat) : Nat :=
  let days := match month with
    | 1 => 0 | 2 => 31 | 3 => 59 | 4 => 90 | 5 => 120 | 6 => 151 | 7 => 181
    | 8 => 212 | 9 => 243 | 10 => 273 | 11 => 304 | 12 => 334 | _ => 365
  if leap ∧ 3 ≤ month then days + 1 else days

def monthLength (leap : Bool) (month : Nat) : Nat := monthStart leap (month + 1) - monthStart leap month

def Valid (d : Civil) : Prop :=
  1 ≤ d.month ∧ d.month ≤ 12 ∧ 1 ≤ d.day ∧ d.day ≤ monthLength (isLeap d.year) d.month

instance (d : Civil) : Decidable d.Valid := inferInstanceAs (Decidable (_ ∧ _))

def ordinal (d : Civil) : Nat := monthStart (isLeap d.year) d.month + d.day

def dayNumber (d : Civil) : Int := yearStart d.year + d.ordinal - 1

/-- The year that holds a day. The estimate is at most one year off. -/
def yearOf (day : Int) : Int :=
  let guess := day * 400 / 146097
  if day < yearStart guess then guess - 1
  else if yearStart (guess + 1) ≤ day then guess + 1
  else guess

/-- The month that holds the day of a year, counted from 0. -/
def monthOf (leap : Bool) (offset : Nat) : Nat :=
  let rec go : Nat → Nat
    | 0 => 1
    | month + 1 => if monthStart leap (month + 1) ≤ offset then month + 1 else go month
  go 12

def ofDayNumber (day : Int) : Civil :=
  let year := yearOf day
  let offset := (day - yearStart year).toNat
  let month := monthOf (isLeap year) offset
  ⟨year, month, offset - monthStart (isLeap year) month + 1⟩

/-- The day of the week, Monday being 0. -/
def weekday (d : Civil) : Nat := ((d.dayNumber + 5) % 7).toNat

/-- The number of the week whose weeks start on the given weekday; days before the first such
weekday are in week 0. -/
def weekFrom (start : Nat) (d : Civil) : Nat := (d.ordinal + 6 - (d.weekday + 7 - start) % 7) / 7

/-- The ISO week and the year it is counted in: the week belongs to the year of its Thursday. -/
def isoWeek (d : Civil) : Int × Nat :=
  let thursday := ofDayNumber (d.dayNumber - d.weekday + 3)
  (thursday.year, (thursday.ordinal - 1) / 7 + 1)

def leastYear : Int := -262143

def greatestYear : Int := 262142

end Civil
end PolicyGate
