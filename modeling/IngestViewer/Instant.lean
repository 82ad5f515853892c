import IngestViewer.Calendar

namespace IngestViewer

/-- A moment: whole seconds since the first moment of 1970, and nanoseconds on top. Inside a leap
second the seconds stay those of the second before it and the nanoseconds go on past 10 ^ 9. -/
structure Instant where
  seconds : Int
  nanos : Nat
deriving DecidableEq, Repr

namespace Instant

def ofMillis (ms : Int) : Instant :=
  ⟨ms / 1000, (ms % 1000).toNat * 1000000⟩

/-- Whole milliseconds since the first moment of 1970, rounded down. -/
def millis (t : Instant) : Int :=
  t.seconds * 1000 + t.nanos / 1000000

def secondsOfDay : Int := 86400

/-- The number of the day that the moment lies in. -/
def day (t : Instant) : Int := t.seconds / secondsOfDay

def secondOfDay (t : Instant) : Int := t.seconds % secondsOfDay

/-- The leap seconds to count between two moments: one that the later time of day has passed. -/
def leapsBetween (t u : Instant) : Int :=
  if u.secondOfDay < t.secondOfDay ∧ 1000000000 ≤ u.nanos then 1
  else if t.secondOfDay < u.secondOfDay ∧ 1000000000 ≤ t.nanos then -1
  else 0

/-- The nanoseconds that have passed since another moment. -/
def nanosSince (t u : Instant) : Int :=
  (t.seconds - u.seconds + leapsBetween t u) * 1000000000 + ((t.nanos : Int) - u.nanos)

/-- The whole seconds that have passed since another moment, cut toward zero. -/
def secondsSince (t u : Instant) : Int :=
  (t.nanosSince u).tdiv 1000000000

end Instant

/-- The offset of local time from universal time at each moment, in seconds. -/
abbrev Zone := Instant → Int

namespace Zone

/-- A zone whose offset never changes. -/
def fixed (offset : Int) : Zone := fun _ => offset

/-- A zone that changes its offset at given milliseconds, listed in ascending order. Before the
first of them it has the offset `first`. -/
def stepwise (first : Int) (changes : List (Int × Int)) : Zone := fun t =>
  match changes.reverse.find? fun c => c.1 ≤ t.millis with
  | some c => c.2
  | none => first

end Zone

/-- What a clock on the wall and a calendar show: the number of the day, the second of the day, and
the offset from universal time. -/
structure LocalTime where
  day : Int
  second : Nat
  offset : Int
deriving DecidableEq, Repr

namespace LocalTime

/-- The local time of a moment at an offset. -/
def ofInstant (offset : Int) (t : Instant) : LocalTime :=
  ⟨(t.seconds + offset) / Instant.secondsOfDay,
    ((t.seconds + offset) % Instant.secondsOfDay).toNat, offset⟩

/-- The local time of a moment in a zone. -/
def inZone (zone : Zone) (t : Instant) : LocalTime :=
  ofInstant (zone t) t

def date (l : LocalTime) : Date := Date.ofDayNumber l.day

def hour (l : LocalTime) : Nat := l.second / 3600

def minute (l : LocalTime) : Nat := l.second / 60 % 60

end LocalTime

end IngestViewer
