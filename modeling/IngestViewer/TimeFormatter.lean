import IngestViewer.LocaleRegistry
import IngestViewer.Timestamp

namespace IngestViewer

/-- A clock: what it shows at each reading, and how often it has been read. -/
structure Clock where
  shows : Nat → Instant
  reads : Nat := 0

namespace Clock

/-- A clock that stands still. -/
def still (t : Instant) : Clock := ⟨fun _ => t, 0⟩

def now (c : Clock) : Instant := c.shows c.reads

def tick (c : Clock) : Clock := { c with reads := c.reads + 1 }

end Clock

/-- What it takes to put a moment into words. -/
structure TimeFormatter where
  registry : LocaleRegistry
  tag : String
  zone : Zone

namespace TimeFormatter

def table (f : TimeFormatter) : PhraseTable :=
  f.registry.resolve f.tag

/-- The day and the time of a moment. Days are told apart by the local calendar, each moment taken
at its own offset. -/
def phrase (f : TimeFormatter) (now t : Instant) : String :=
  let l := LocalTime.inZone f.zone t
  let today := (LocalTime.inZone f.zone now).date
  let day :=
    if l.date = today then f.table.today
    else if l.date = today.previous then f.table.yesterday
    else f.table.formatDate l.day
  day ++ " @ " ++ f.table.formatTime l

/-- The day and the time of a timestamp. The clock is read if the timestamp is well formed. -/
def localize (f : TimeFormatter) (timestamp : String) (c : Clock) :
    Except MalformedTimestamp String × Clock :=
  match Timestamp.parse timestamp with
  | .ok t => (.ok (f.phrase c.now t), c.tick)
  | .error e => (.error e, c)

/-- How long ago a timestamp was. The clock is read if the timestamp is well formed. -/
def relativeDelta (f : TimeFormatter) (timestamp : String) (c : Clock) :
    Except MalformedTimestamp String × Clock :=
  match Timestamp.parse timestamp with
  | .ok t => (.ok (f.table.relative (c.now.secondsSince t)), c.tick)
  | .error e => (.error e, c)

/-- A phrase in parentheses, or nothing if there is none. -/
def suffixOf (phrase : String) : String :=
  if phrase = "" then "" else " (" ++ phrase ++ ")"

/-- How long ago a timestamp was, as an addition to its day and time. -/
def deltaSuffix (f : TimeFormatter) (timestamp : String) (c : Clock) :
    Except MalformedTimestamp String × Clock :=
  let (r, c) := f.relativeDelta timestamp c
  (r.map suffixOf, c)

end TimeFormatter

end IngestViewer
