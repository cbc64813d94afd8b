/-!
# The Gregorian calendar

Days are numbered from the first of January of the year 1, backwards too.  A date is found by years
first and by the lengths of the months after that.
-/

namespace LogQuery.Time

/-- Every fourth year is a leap year, but of the full centuries only every fourth. -/
def isLeap (year : Int) : Bool :=
  year % 4 == 0 && (year % 100 != 0 || year % 400 == 0)

/-- The lengths of the months of a year. -/
def monthLengths (leap : Bool) : List Nat :=
  [31, if leap then 29 else 28, 31, 30, 31, 30, 31, 31, 30, 31, 30, 31]

/-- The number of the first day of a year. -/
def firstDay (year : Int) : Int :=
  let past := year - 1
  365 * past + past / 4 - past / 100 + past / 400

/-- The year of a day: the mean length of a year gives an estimate that is off by one at most. -/
def yearOf (day : Int) : Int :=
  let estimate := 400 * day / 146097 + 1
  if day < firstDay estimate then estimate - 1
  else if firstDay (estimate + 1) ≤ day then estimate + 1
  else estimate

/-- Month and day of the month, both from one on, of a day counted from the start of the months. -/
def splitDays : List Nat → Nat → Nat × Nat
  | [], days => (1, days + 1)
  | length :: lengths, days =>
      if days < length then (1, days + 1)
      else
        let (month, day) := splitDays lengths (days - length)
        (month + 1, day)

/-- A date of the Gregorian calendar; month and day count from one. -/
structure Date where
  year : Int
  month : Nat
  day : Nat
  deriving Repr, DecidableEq

namespace Date

/-- Whether the month exists and has the day. -/
def isValid (date : Date) : Bool :=
  match date.month with
  | 0 => false
  | month + 1 =>
      match (monthLengths (isLeap date.year))[month]? with
      | some length => decide (1 ≤ date.day) && decide (date.day ≤ length)
      | none => false

/-- The number of a date. -/
def toDayNumber (date : Date) : Int :=
  let before := (monthLengths (isLeap date.year)).take (date.month - 1)
  firstDay date.year + (before.foldr (· + ·) (date.day - 1) : Nat)

/-- The date with a number. -/
def ofDayNumber (number : Int) : Date :=
  let year := yearOf number
  let (month, day) := splitDays (monthLengths (isLeap year)) (number - firstDay year).toNat
  ⟨year, month, day⟩

end Date

end LogQuery.Time
