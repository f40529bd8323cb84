import PolicyGate.Calendar.Timestamp

/-!
Formats for instants: text with specifiers that begin with `%`. A format is read into items first; one
with an unknown specifier has no items. Instants are shown in UTC.
-/
namespace PolicyGate

/-- How a short number is filled up. -/
inductive Fill where
  | none
  | zeros
  | blanks
deriving DecidableEq

/-- A number that an instant shows. -/
inductive DateNumber where
  | year
  | century
  | yearOfCentury
  | isoYear
  | isoYearOfCentury
  | quarter
  | month
  | day
  | weekFromSunday
  | weekFromMonday
  | isoWeek
  | daysFromSunday
  | weekdayFromMonday
  | ordinal
  | hour
  | hour12
  | minute
  | second
  | nanosecond
  | timestamp
deriving DecidableEq

inductive DateItem where
  | text (s : List Char)
  | number (n : DateNumber) (fill : Fill)
  | shortMonth
  | longMonth
  | shortWeekday
  | longWeekday
  | lowerHalfDay
  | upperHalfDay
  /-- As many groups of three decimals as are needed, or nothing. -/
  | fraction
  | decimals (dot : Bool) (digits : Nat)
  | zoneName
  | offset (s : List Char)
  | rfc3339
  /-- An offset that can be read but has no written form. -/
  | permissiveOffset
deriving DecidableEq

namespace DateItem

def monthNames : List String :=
  ["January", "February", "March", "April", "May", "June", "July", "August", "September", "October",
    "November", "December"]

def weekdayNames : List String :=
  ["Monday", "Tuesday", "Wednesday", "Thursday", "Friday", "Saturday", "Sunday"]

/-- A numeral filled up to a width, with a sign if it is negative or one is asked for. Zeros stand
behind the sign, blanks in front of it. -/
def wide (fill : Fill) (width : Nat) (signed : Bool) (n : Int) : List Char :=
  let sign := if n < 0 then ['-'] else if signed then ['+'] else []
  let width := if signed then width + 1 else width
  match fill with
  | .none => sign ++ Text.decimal n.natAbs
  | .zeros => sign ++ Text.padded '0' (width - sign.length) n.natAbs
  | .blanks =>
    let all := sign ++ Text.decimal n.natAbs
    List.replicate (width - all.length) ' ' ++ all

/-- A number of one byte in two places. One beyond 99 has a character beyond `9` in the first. -/
def twoPlaces (fill : Fill) (n : Int) : List Char :=
  let v := (n % 256).toNat
  let ones := Nat.digitChar (v % 10)
  if v / 10 = 0 then
    match fill with
    | .none => [ones]
    | .zeros => ['0', ones]
    | .blanks => [' ', ones]
  else [Char.ofNat (48 + v / 10), ones]

/-- A year: four places from 1000 to 9999, signed below 0 and above 9999. -/
def yearPlaces (fill : Fill) (year : Int) : List Char :=
  if 1000 ≤ year ∧ year ≤ 9999 then Text.decimal year.natAbs
  else wide fill 4 (year < 0 ∨ 9999 < year) year

def renderNumber (t : Timestamp) (fill : Fill) : DateNumber → List Char
  | .year => yearPlaces fill t.date.year
  | .century => twoPlaces fill (t.date.year / 100)
  | .yearOfCentury => twoPlaces fill (t.date.year % 100)
  | .isoYear => yearPlaces fill t.date.isoWeek.1
  | .isoYearOfCentury => twoPlaces fill (t.date.isoWeek.1 % 100)
  | .quarter => Text.decimal ((t.date.month - 1) / 3 + 1)
  | .month => twoPlaces fill t.date.month
  | .day => twoPlaces fill t.date.day
  | .weekFromSunday => twoPlaces fill (t.date.weekFrom 6)
  | .weekFromMonday => twoPlaces fill (t.date.weekFrom 0)
  | .isoWeek => twoPlaces fill t.date.isoWeek.2
  | .daysFromSunday => Text.decimal ((t.date.weekday + 1) % 7)
  | .weekdayFromMonday => Text.decimal (t.date.weekday + 1)
  | .ordinal => wide fill 3 false t.date.ordinal
  | .hour => twoPlaces fill t.clock.hour
  | .hour12 => twoPlaces fill ((t.clock.hour + 11) % 12 + 1 : Nat)
  | .minute => twoPlaces fill t.clock.minute
  | .second => twoPlaces fill t.clock.second
  | .nanosecond => wide fill 9 false t.clock.nanos
  | .timestamp => wide fill 9 false t.seconds

/-- Three, six or nine decimals behind a point, or nothing for a whole second. -/
def shortFraction (nanos : Nat) : List Char :=
  if nanos = 0 then []
  else if nanos % 1000000 = 0 then '.' :: Text.padded '0' 3 (nanos / 1000000)
  else if nanos % 1000 = 0 then '.' :: Text.padded '0' 6 (nanos / 1000)
  else '.' :: Text.padded '0' 9 nanos

def nameAt (names : List String) (i : Nat) : List Char := (names.getD i "").toList

def render? (t : Timestamp) : DateItem → Option (List Char)
  | .text s => some s
  | .number n fill => some (renderNumber t fill n)
  | .shortMonth => some ((nameAt monthNames (t.date.month - 1)).take 3)
  | .longMonth => some (nameAt monthNames (t.date.month - 1))
  | .shortWeekday => some ((nameAt weekdayNames t.date.weekday).take 3)
  | .longWeekday => some (nameAt weekdayNames t.date.weekday)
  | .lowerHalfDay => some (if t.clock.hour < 12 then ['a', 'm'] else ['p', 'm'])
  | .upperHalfDay => some (if t.clock.hour < 12 then ['A', 'M'] else ['P', 'M'])
  | .fraction => some (shortFraction t.clock.nanos)
  | .decimals dot digits =>
    some ((if dot then ['.'] else []) ++ Text.padded '0' digits (t.clock.nanos / Nat.pow 10 (9 - digits)))
  | .zoneName => some ['U', 'T', 'C']
  | .offset s => some s
  | .rfc3339 =>
    some (Timestamp.dateText t.date ++ 'T' :: Timestamp.clockText t.clock ++
      shortFraction t.clock.nanos ++ ['+', '0', '0', ':', '0', '0'])
  | .permissiveOffset => none

def mark (c : Char) : DateItem := .text [c]

def zeros (n : DateNumber) : DateItem := .number n .zeros

def slashed : List DateItem := [zeros .month, mark '/', zeros .day, mark '/', zeros .yearOfCentury]

def clock : List DateItem := [zeros .hour, mark ':', zeros .minute, mark ':', zeros .second]

/-- The items of a specifier of one letter. -/
def ofLetter? : Char → Option (List DateItem)
  | 'A' => some [.longWeekday]
  | 'B' => some [.longMonth]
  | 'C' => some [zeros .century]
  | 'D' => some slashed
  | 'F' => some [zeros .year, mark '-', zeros .month, mark '-', zeros .day]
  | 'G' => some [zeros .isoYear]
  | 'H' => some [zeros .hour]
  | 'I' => some [zeros .hour12]
  | 'M' => some [zeros .minute]
  | 'P' => some [.lowerHalfDay]
  | 'R' => some [zeros .hour, mark ':', zeros .minute]
  | 'S' => some [zeros .second]
  | 'T' => some clock
  | 'U' => some [zeros .weekFromSunday]
  | 'V' => some [zeros .isoWeek]
  | 'W' => some [zeros .weekFromMonday]
  | 'X' => some clock
  | 'Y' => some [zeros .year]
  | 'Z' => some [.zoneName]
  | 'a' => some [.shortWeekday]
  | 'b' => some [.shortMonth]
  | 'h' => some [.shortMonth]
  | 'c' =>
    some ([.shortWeekday, mark ' ', .shortMonth, mark ' ', .number .day .blanks, mark ' '] ++ clock ++
      [mark ' ', zeros .year])
  | 'd' => some [zeros .day]
  | 'e' => some [.number .day .blanks]
  | 'f' => some [zeros .nanosecond]
  | 'g' => some [zeros .isoYearOfCentury]
  | 'j' => some [zeros .ordinal]
  | 'k' => some [.number .hour .blanks]
  | 'l' => some [.number .hour12 .blanks]
  | 'm' => some [zeros .month]
  | 'n' => some [mark '\n']
  | 'p' => some [.upperHalfDay]
  | 'q' => some [.number .quarter .none]
  | 'r' =>
    some [zeros .hour12, mark ':', zeros .minute, mark ':', zeros .second, mark ' ', .upperHalfDay]
  | 's' => some [.number .timestamp .none]
  | 't' => some [mark '\t']
  | 'u' => some [.number .weekdayFromMonday .none]
  | 'v' => some [.number .day .blanks, mark '-', .shortMonth, mark '-', zeros .year]
  | 'w' => some [.number .daysFromSunday .none]
  | 'x' => some slashed
  | 'y' => some [zeros .yearOfCentury]
  | 'z' => some [.offset ['+', '0', '0', '0', '0']]
  | '+' => some [.rfc3339]
  | '%' => some [mark '%']
  | _ => none

/-- What follows a percent sign: the items and how many characters spell them. -/
def specifier? : List Char → Option (List DateItem × Nat)
  | ':' :: 'z' :: _ => some ([.offset ['+', '0', '0', ':', '0', '0']], 2)
  | ':' :: ':' :: 'z' :: _ => some ([.offset ['+', '0', '0', ':', '0', '0', ':', '0', '0']], 3)
  | ':' :: ':' :: ':' :: 'z' :: _ => some ([.offset ['+', '0', '0']], 4)
  | '.' :: 'f' :: _ => some ([.fraction], 2)
  | '.' :: '3' :: 'f' :: _ => some ([.decimals true 3], 3)
  | '.' :: '6' :: 'f' :: _ => some ([.decimals true 6], 3)
  | '.' :: '9' :: 'f' :: _ => some ([.decimals true 9], 3)
  | '3' :: 'f' :: _ => some ([.decimals false 3], 2)
  | '6' :: 'f' :: _ => some ([.decimals false 6], 2)
  | '9' :: 'f' :: _ => some ([.decimals false 9], 2)
  | '#' :: 'z' :: _ => some ([.permissiveOffset], 2)
  | '-' :: rest => filled .none rest
  | '0' :: rest => filled .zeros rest
  | '_' :: rest => filled .blanks rest
  | c :: _ => (ofLetter? c).map (·, 1)
  | [] => none
where
  /-- A specifier with a fill of its own, which only a single number may have. -/
  filled (fill : Fill) : List Char → Option (List DateItem × Nat)
    | [] => none
    | c :: _ =>
      match ofLetter? c with
      | some [.number n _] => some ([.number n fill], 2)
      | _ => none

end DateItem

namespace DateFormat

/-- The items of a format; `skip` characters still belong to a specifier that was read. -/
def items : (skip : Nat) → List Char → Option (List DateItem)
  | _, [] => some []
  | skip + 1, _ :: rest => items skip rest
  | 0, c :: rest =>
    if c = '%' then
      match DateItem.specifier? rest with
      | some (read, used) => (items used rest).map (read ++ ·)
      | none => none
    else (items 0 rest).map (.text [c] :: ·)

def read? (format : String) : Option (List DateItem) := items 0 format.toList

/-- An instant in a format, if the format has items that all have a text. -/
def render? (format : String) (t : Timestamp) : Option String := do
  let items ← read? format
  let texts ← items.mapM (DateItem.render? t)
  return String.ofList texts.flatten

end DateFormat
end PolicyGate
