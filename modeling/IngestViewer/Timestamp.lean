import IngestViewer.Blank
import IngestViewer.Calendar
import IngestViewer.Instant

namespace IngestViewer

/-- Why a text is no timestamp. -/
inductive TimestampFault where
  | tooShort
  | invalid
  | outOfRange
  | tooLong
deriving DecidableEq, Repr

def TimestampFault.message : TimestampFault → String
  | tooShort => "premature end of input"
  | invalid => "input contains invalid characters"
  | outOfRange => "input is out of range"
  | tooLong => "trailing input"

/-- A text that is no timestamp. -/
structure MalformedTimestamp where
  input : String
  fault : TimestampFault
deriving DecidableEq, Repr

def MalformedTimestamp.message (e : MalformedTimestamp) : String :=
  "malformed timestamp '" ++ e.input ++ "': " ++ e.fault.message

namespace Timestamp

def digitValue (c : Char) : Nat := c.toNat - '0'.toNat

/-- Reads one character of a kind. -/
def expect (p : Char → Bool) : List Char → Except TimestampFault (List Char)
  | c :: cs => if p c then .ok cs else .error .invalid
  | [] => .error .invalid

def twoDigits : List Char → Except TimestampFault (Nat × List Char)
  | a :: b :: cs =>
    if a.isDigit && b.isDigit then .ok (digitValue a * 10 + digitValue b, cs) else .error .invalid
  | _ => .error .invalid

/-- The size of a text in UTF-8. -/
def byteSize (cs : List Char) : Nat :=
  cs.foldl (fun n c => n + c.utf8Size) 0

/-- Two digits in a place where the text may end before them. A text ends there if it has less than
two bytes left, be they one character or two. -/
def lastTwoDigits (cs : List Char) : Except TimestampFault (Nat × List Char) :=
  if byteSize cs < 2 then .error .tooShort else twoDigits cs

/-- The number of nanoseconds behind the point: digits after the ninth do not count. -/
def nanosOfDigits (ds : List Char) : Nat :=
  Nat.ofDigitChars 10 ((ds ++ List.replicate 9 '0').take 9) 0

/-- Reads the digits of a fraction, if a point announces them. -/
def readFraction : List Char → Except TimestampFault (Nat × List Char)
  | '.' :: cs =>
    match cs with
    | [] => .error .tooShort
    | c :: _ =>
      if c.isDigit then
        .ok (nanosOfDigits (cs.takeWhile Char.isDigit), cs.dropWhile Char.isDigit)
      else .error .invalid
  | cs => .ok (0, cs)

/-- Reads a calendar date. -/
def readDate (cs : List Char) : Except TimestampFault (Date × List Char) := do
  let (century, cs) ← twoDigits cs
  let (year, cs) ← twoDigits cs
  let cs ← expect (· == '-') cs
  let (month, cs) ← twoDigits cs
  let cs ← expect (· == '-') cs
  let (day, cs) ← twoDigits cs
  match Date.ofNumbers? (century * 100 + year : Nat) month day with
  | some d => .ok (d, cs)
  | none => .error .outOfRange

/-- Reads a time of day: the second of the day and the nanoseconds. The second 60 is the leap second
behind second 59. -/
def readTime (cs : List Char) : Except TimestampFault ((Nat × Nat) × List Char) := do
  let (hour, cs) ← twoDigits cs
  let cs ← expect (· == ':') cs
  let (minute, cs) ← twoDigits cs
  let cs ← expect (· == ':') cs
  let (second, cs) ← twoDigits cs
  let (nanos, cs) ← readFraction cs
  if hour ≤ 23 ∧ minute ≤ 59 ∧ second ≤ 60 then
    let leap := if second = 60 then 1000000000 else 0
    .ok ((hour * 3600 + minute * 60 + min second 59, nanos + leap), cs)
  else .error .outOfRange

/-- Reads the hours and minutes of an offset from behind its sign, as seconds. -/
def readHoursMinutes (cs : List Char) : Except TimestampFault (Nat × List Char) := do
  let (hours, cs) ← lastTwoDigits cs
  let cs ←
    match cs with
    | [] => .error .tooShort
    | cs => expect (· == ':') cs
  let (minutes, cs) ← lastTwoDigits cs
  if minutes ≤ 59 then .ok (hours * 3600 + minutes * 60, cs) else .error .outOfRange

/-- Reads an offset: a letter for none, or a sign, hours and minutes. -/
def readOffset : List Char → Except TimestampFault (Int × List Char)
  | [] => .error .tooShort
  | c :: cs =>
    if c == 'Z' || c == 'z' then .ok (0, cs)
    else if c == '+' then (readHoursMinutes cs).map fun (n, cs) => ((n : Int), cs)
    else if c == '-' || c == '\u2212' then
      (readHoursMinutes cs).map fun (n, cs) => (-(n : Int), cs)
    else .error .invalid

/-- Reads a date, a time of day and an offset, and nothing else. -/
def read (cs : List Char) : Except TimestampFault Instant :=
  if byteSize cs < 19 then .error .tooShort
  else do
    let (date, cs) ← readDate cs
    let cs ← expect (fun c => c == 'T' || c == 't' || c == ' ') cs
    let ((second, nanos), cs) ← readTime cs
    let (offset, cs) ← readOffset cs
    if cs ≠ [] then .error .tooLong
    else if 86400 ≤ offset.natAbs then .error .outOfRange
    else .ok ⟨date.dayNumber * 86400 + second - offset, nanos⟩

/-- Reads a timestamp with blanks around it. -/
def parse (s : String) : Except MalformedTimestamp Instant :=
  match read (trimBlanks s.toList) with
  | .ok t => .ok t
  | .error fault => .error ⟨s, fault⟩

end Timestamp

end IngestViewer
