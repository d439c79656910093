import RouteFlow.Clock
import RouteFlow.Text.Blank
import RouteFlow.Text.Numeral

/-!
# HTTP dates

The three forms in which a header may give a date: `Sun, 06 Nov 1994 08:49:37 GMT`, the older
`Sunday, 06-Nov-94 08:49:37 GMT` and `Sun Nov  6 08:49:37 1994`. A year of two digits below 70 is of
this century. The day of the week has to be the right one, and no date is before 1970.

* `Date.parse?`: the date that a text gives.
* `Date.moment?`: the moment of the date that a text gives.
-/

namespace RouteFlow.Http

/-- A date and a time of day in universal time; weekdays count from Monday, which is 1. -/
structure Date where
  year : Nat
  month : Nat
  day : Nat
  hour : Nat
  minute : Nat
  second : Nat
  weekday : Nat
  deriving DecidableEq, Repr

namespace Date

/-! ### The calendar -/

/-- Whether a year has a leap day. -/
def isLeap (year : Nat) : Bool := year % 4 == 0 && (year % 100 != 0 || year % 400 == 0)

/-- The days of the months. -/
def monthLengths (year : Nat) : List Nat :=
  [31, if isLeap year then 29 else 28, 31, 30, 31, 30, 31, 31, 30, 31, 30, 31]

/-- The leap days before a year. -/
def leapDaysBefore (year : Nat) : Nat :=
  (year - 1) / 4 - (year - 1) / 100 + (year - 1) / 400

/-- The days from the start of 1970 to the start of a year from then on. -/
def daysBefore (year : Nat) : Nat :=
  (year - 1970) * 365 + (leapDaysBefore year - leapDaysBefore 1970)

/-- The days from the start of 1970 to a date from then on. -/
def dayNumber (d : Date) : Nat :=
  daysBefore d.year + ((monthLengths d.year).take (d.month - 1)).foldl (· + ·) 0 + (d.day - 1)

/-- The weekday of a day; the first day of 1970 was a Thursday. -/
def weekdayOf (dayNumber : Nat) : Nat := (dayNumber + 3) % 7 + 1

/-- Whether a date exists and its weekday is right. -/
def isValid (d : Date) : Bool :=
  d.second < 60 && d.minute < 60 && d.hour < 24 && 1 ≤ d.month && d.month ≤ 12
    && 1 ≤ d.day && d.day ≤ (monthLengths d.year).getD (d.month - 1) 0
    && 1970 ≤ d.year && d.year ≤ 9999 && d.weekday == weekdayOf d.dayNumber

/-- The moment of a date. -/
def moment (d : Date) : Nanos :=
  Nanos.ofSeconds (((d.dayNumber * 24 + d.hour) * 60 + d.minute) * 60 + d.second)

/-! ### The three forms -/

/-- The names of the months, from January on. -/
def monthNames : List String :=
  ["Jan", "Feb", "Mar", "Apr", "May", "Jun", "Jul", "Aug", "Sep", "Oct", "Nov", "Dec"]

/-- The names of the weekdays, from Monday on. -/
def weekdayNames : List String :=
  ["Monday", "Tuesday", "Wednesday", "Thursday", "Friday", "Saturday", "Sunday"]

/-- The short names of the weekdays, from Monday on. -/
def shortWeekdayNames : List String := weekdayNames.map fun n => String.ofList (n.toList.take 3)

/-- The number of a name in a list, from one on. -/
def number? (names : List String) (cs : List Char) : Option Nat :=
  (names.findIdx? (·.toList == cs)).map (· + 1)

/-- A number of two digits. -/
def two? : List Char → Option Nat
  | [a, b] => Text.digits? [a, b]
  | _ => none

/-- A number of four digits. -/
def four? : List Char → Option Nat
  | [a, b, c, d] => Text.digits? [a, b, c, d]
  | _ => none

/-- A day of one digit after a space or of two digits. -/
def paddedDay? : List Char → Option Nat
  | [' ', b] => Text.digits? [b]
  | cs => two? cs

/-- The characters from position `start` to before position `stop`. -/
def piece (cs : List Char) (start stop : Nat) : List Char := (cs.drop start).take (stop - start)

/-- Whether `word` stands at position `start`. -/
def has (cs : List Char) (start : Nat) (word : String) : Bool :=
  word.toList.isPrefixOf (cs.drop start)

/-- `Sun, 06 Nov 1994 08:49:37 GMT` -/
def fixed? (cs : List Char) : Option Date := do
  if cs.length ≠ 29 ∨ !has cs 25 " GMT" ∨ !has cs 16 " " ∨ !has cs 19 ":" ∨ !has cs 22 ":"
      ∨ !has cs 3 ", " ∨ !has cs 7 " " ∨ !has cs 11 " " then none
  else
    let second ← two? (piece cs 23 25)
    let minute ← two? (piece cs 20 22)
    let hour ← two? (piece cs 17 19)
    let day ← two? (piece cs 5 7)
    let month ← number? monthNames (piece cs 8 11)
    let year ← four? (piece cs 12 16)
    let weekday ← number? shortWeekdayNames (piece cs 0 3)
    some { year, month, day, hour, minute, second, weekday }

/-- `Sunday, 06-Nov-94 08:49:37 GMT` -/
def dashed? (cs : List Char) : Option Date := do
  let (dayName, rest) ← Text.cut? [',', ' '] cs
  let weekday ← number? weekdayNames dayName
  if rest.length ≠ 22 ∨ !has rest 12 ":" ∨ !has rest 15 ":" ∨ !has rest 18 " GMT"
      ∨ !has rest 2 "-" ∨ !has rest 6 "-" then none
  else
    let short ← two? (piece rest 7 9)
    let second ← two? (piece rest 16 18)
    let minute ← two? (piece rest 13 15)
    let hour ← two? (piece rest 10 12)
    let day ← two? (piece rest 0 2)
    let month ← number? monthNames (piece rest 3 6)
    let year := if short < 70 then 2000 + short else 1900 + short
    some { year, month, day, hour, minute, second, weekday }

/-- `Sun Nov  6 08:49:37 1994` -/
def spaced? (cs : List Char) : Option Date := do
  if cs.length ≠ 24 ∨ !has cs 10 " " ∨ !has cs 13 ":" ∨ !has cs 16 ":" ∨ !has cs 19 " "
      ∨ !has cs 3 " " ∨ !has cs 7 " " then none
  else
    let second ← two? (piece cs 17 19)
    let minute ← two? (piece cs 14 16)
    let hour ← two? (piece cs 11 13)
    let day ← paddedDay? (piece cs 8 10)
    let month ← number? monthNames (piece cs 4 7)
    let year ← four? (piece cs 20 24)
    let weekday ← number? shortWeekdayNames (piece cs 0 3)
    some { year, month, day, hour, minute, second, weekday }

/-- Reads a date; blanks around it do not count. -/
def parse? (s : String) : Option Date :=
  let cs := Text.trim s.toList
  if s.toList.any fun c => 128 ≤ c.toNat then none
  else ((fixed? cs).orElse fun _ => (dashed? cs).orElse fun _ => spaced? cs).filter isValid

/-- The moment of the date that a text gives. -/
def moment? (s : String) : Option Nanos := (parse? s).map moment

end Date
end RouteFlow.Http
