import IngestViewer.Calendar
import IngestViewer.Instant

namespace IngestViewer

inductive DateStyle where
  | weekdayMonthDayYear
  | weekdayDayMonthYear
deriving DecidableEq, Repr

inductive ClockStyle where
  | twelveHour
  | twentyFourHour
deriving DecidableEq, Repr

/-- The words of a language for moments. In the phrases that tell a count, a placeholder stands for
the count wherever it is wanted. -/
structure PhraseTable where
  today : String
  yesterday : String
  weekdays : Fin 7 → String
  months : Fin 12 → String
  dateStyle : DateStyle
  clockStyle : ClockStyle
  justNow : String
  secondsAgo : String
  oneMinuteAgo : String
  minutesAgo : String

/-- Puts a text in the place of every placeholder. -/
def fillPlaceholder (value : List Char) : List Char → List Char
  | '{' :: 'n' :: '}' :: cs => value ++ fillPlaceholder value cs
  | c :: cs => c :: fillPlaceholder value cs
  | [] => []

/-- A phrase that tells a count. -/
def countPhrase (template : String) (count : Nat) : String :=
  String.ofList (fillPlaceholder (Nat.toDigits 10 count) template.toList)

/-- A number below 100 in two digits. -/
def twoDigitText (n : Nat) : String :=
  String.ofList (if n < 10 then '0' :: Nat.toDigits 10 n else Nat.toDigits 10 n)

def decimalText (n : Nat) : String :=
  String.ofList (Nat.toDigits 10 n)

/-- A year in digits, with a minus sign before those that precede the year 0. -/
def yearText (year : Int) : String :=
  (if year < 0 then "-" else "") ++ decimalText year.natAbs

/-- The name of the zone that lies so many seconds from universal time: whole hours and minutes,
the minutes left out if there are none. -/
def zoneText (offset : Int) : String :=
  let minutes := offset.natAbs / 60
  if offset = 0 then "UTC"
  else
    "UTC" ++ (if offset < 0 then "-" else "+") ++ decimalText (minutes / 60) ++
      if minutes % 60 = 0 then "" else ":" ++ twoDigitText (minutes % 60)

namespace PhraseTable

def english : PhraseTable where
  today := "today"
  yesterday := "yesterday"
  weekdays := #v["Mon", "Tue", "Wed", "Thu", "Fri", "Sat", "Sun"].get
  months := #v["January", "February", "March", "April", "May", "June", "July", "August",
    "September", "October", "November", "December"].get
  dateStyle := .weekdayMonthDayYear
  clockStyle := .twelveHour
  justNow := "just now"
  secondsAgo := "\x7bn\x7d seconds ago"
  oneMinuteAgo := "1 minute ago"
  minutesAgo := "\x7bn\x7d minutes ago"

def german : PhraseTable where
  today := "heute"
  yesterday := "gestern"
  weekdays := #v["Mo.", "Di.", "Mi.", "Do.", "Fr.", "Sa.", "So."].get
  months := #v["Januar", "Februar", "März", "April", "Mai", "Juni", "Juli", "August",
    "September", "Oktober", "November", "Dezember"].get
  dateStyle := .weekdayDayMonthYear
  clockStyle := .twentyFourHour
  justNow := "gerade eben"
  secondsAgo := "vor \x7bn\x7d Sekunden"
  oneMinuteAgo := "vor 1 Minute"
  minutesAgo := "vor \x7bn\x7d Minuten"

def IsBuiltin (table : PhraseTable) : Prop := table = .english ∨ table = .german

/-- The full date of a day. -/
def formatDate (table : PhraseTable) (day : Int) : String :=
  let date := Date.ofDayNumber day
  let weekday := table.weekdays (Date.weekday day)
  let month := table.months date.month
  match table.dateStyle with
  | .weekdayMonthDayYear =>
    weekday ++ ", " ++ month ++ " " ++ decimalText date.day ++ ", " ++ yearText date.year
  | .weekdayDayMonthYear =>
    weekday ++ ", " ++ decimalText date.day ++ ". " ++ month ++ " " ++ yearText date.year

/-- Hour, minute and zone. On a twelve-hour clock midnight and noon are 12. -/
def formatTime (table : PhraseTable) (l : LocalTime) : String :=
  match table.clockStyle with
  | .twelveHour =>
    decimalText ((l.hour + 11) % 12 + 1) ++ ":" ++ twoDigitText l.minute ++
      (if l.hour < 12 then " AM " else " PM ") ++ zoneText l.offset
  | .twentyFourHour =>
    twoDigitText l.hour ++ ":" ++ twoDigitText l.minute ++ " " ++ zoneText l.offset

/-- How long ago something was. There is no phrase from an hour on; what is still to come counts as
just happened. -/
def relative (table : PhraseTable) (elapsed : Int) : String :=
  if elapsed < 5 then table.justNow
  else if elapsed < 60 then countPhrase table.secondsAgo elapsed.toNat
  else if elapsed < 120 then table.oneMinuteAgo
  else if elapsed < 3600 then countPhrase table.minutesAgo (elapsed / 60).toNat
  else ""

end PhraseTable

end IngestViewer
