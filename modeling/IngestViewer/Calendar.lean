namespace IngestViewer

/-- A year of the proleptic Gregorian calendar has a 29th of February iff it is divisible by 4, and
by 400 if it is divisible by 100. The year 0 is the one before the year 1. -/
def isLeapYear (year : Int) : Bool :=
  year % 4 == 0 && (year % 100 != 0 || year % 400 == 0)

def yearLength (year : Int) : Nat :=
  if isLeapYear year then 366 else 365

/-- The lengths of a year's months. -/
def monthLengths (year : Int) : List Nat :=
  [31, if isLeapYear year then 29 else 28, 31, 30, 31, 30, 31, 31, 30, 31, 30, 31]

/-- A date of the proleptic Gregorian calendar. Months count from 0, days of a month from 1. -/
structure Date where
  year : Int
  month : Fin 12
  day : Nat
deriving DecidableEq, Repr

namespace Date

/-- The date with the usual number for its month, if there is such a date. -/
def ofNumbers? (year : Int) (month day : Nat) : Option Date :=
  if h : month - 1 < 12 then
    if 1 ≤ month ∧ 1 ≤ day ∧ day ≤ (monthLengths year).getD (month - 1) 0 then
      some ⟨year, ⟨month - 1, h⟩, day⟩
    else none
  else none

/-- The number of days from the first day of year 0 to the first day of a year. -/
def daysBeforeYear (year : Int) : Int :=
  365 * year + (year + 3) / 4 - (year + 99) / 100 + (year + 399) / 400

/-- The number of days of a year before a month. -/
def daysBeforeMonth (year : Int) (month : Nat) : Nat :=
  ((monthLengths year).take month).foldl (· + ·) 0

/-- The number of the first day of 1970 among the days from the first of year 0. -/
def epochDay : Int := 719528

/-- The number of days from the first day of 1970. -/
def dayNumber (d : Date) : Int :=
  daysBeforeYear d.year + daysBeforeMonth d.year d.month + d.day - 1 - epochDay

/-- The year that a day belongs to and its place in it, for a day counted from the beginning of a
year. The first argument bounds the number of years passed over. -/
def findYear : Nat → Int → Nat → Int × Nat
  | 0, year, n => (year, n)
  | fuel + 1, year, n =>
    if n < yearLength year then (year, n) else findYear fuel (year + 1) (n - yearLength year)

/-- The first month, from a month on, that a day belongs to, and its place in it. -/
def findMonth : List Nat → Nat → Nat → Nat × Nat
  | [], month, n => (month, n)
  | len :: lens, month, n => if n < len then (month, n) else findMonth lens (month + 1) (n - len)

/-- The days of 400 years, after which the calendar repeats itself. -/
def daysOfCycle : Int := 146097

/-- The date of a day counted from the first of 1970. -/
def ofDayNumber (n : Int) : Date :=
  let fromZero := n + epochDay
  let cycle := fromZero / daysOfCycle
  let (year, inYear) := findYear 400 (400 * cycle) (fromZero % daysOfCycle).toNat
  let (month, inMonth) := findMonth (monthLengths year) 0 inYear
  ⟨year, Fin.ofNat 12 month, inMonth + 1⟩

/-- The date of the day before. -/
def previous (d : Date) : Date :=
  if 1 < d.day then ⟨d.year, d.month, d.day - 1⟩
  else if 0 < d.month.val then
    let month : Fin 12 := ⟨d.month.val - 1, by omega⟩
    ⟨d.year, month, (monthLengths d.year).getD month 0⟩
  else ⟨d.year - 1, Fin.last 11, 31⟩

/-- The day of the week, from 0 for Monday. The first day of 1970 was a Thursday. -/
def weekday (n : Int) : Fin 7 :=
  ⟨((n + 3) % 7).toNat, by omega⟩

end Date

end IngestViewer
