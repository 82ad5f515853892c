import IngestViewer.IngestRecord
import IngestViewer.JsonWriter
import IngestViewer.Ordinal

namespace IngestViewer

/-- A part of an event's footnote. -/
inductive FootnotePart where
  | attempt (label : String)
  | logLink (url : String)
deriving DecidableEq, Repr

abbrev Footnote := List FootnotePart

namespace Footnote

/-- What a part looks like in running text: links are named, not spelled out. -/
def partText : FootnotePart → String
  | .attempt label => label
  | .logLink _ => "dev logs"

/-- The footnote in running text, in parentheses. -/
def text (f : Footnote) : String :=
  "(" ++ " / ".intercalate (f.map partText) ++ ")"

def partJson : FootnotePart → Json
  | .attempt label => .ofMembers [("attempt", .ofText label)]
  | .logLink url => .ofMembers [("logLink", .ofText url)]

def toJson (f : Footnote) : Json :=
  .ofMembers [("parts", .array (f.map partJson))]

end Footnote

/-- An event as the timeline shows it. -/
structure TimelineEntry where
  description : String
  createdDate : String
  failed : Bool
  unmatchedStart : Bool
  attemptLabel : Option String
  logLink : Option String
  needsFootnote : Bool
deriving DecidableEq, Repr

/-- An event whose description holds this word tells of a failure. The case of letters counts. -/
def failureMark : String := "failed"

namespace TimelineEntry

def ofEvent (e : IngestEvent) : TimelineEntry :=
  let failed := occursIn failureMark.toList e.description.toList
  { description := e.description
    createdDate := e.createdDate
    failed
    unmatchedStart := e.unmatchedStart
    attemptLabel := if e.repeated then some (ordinal e.count.toNat ++ " attempt") else none
    logLink := nonEmpty e.logUrl
    needsFootnote := failed || e.unmatchedStart || e.repeated }

/-- The footnote of an entry that needs one: the attempt, then the link to the logs. It may have no
part at all. -/
def footnote? (e : TimelineEntry) : Option Footnote :=
  if e.needsFootnote then
    some ((e.attemptLabel.map FootnotePart.attempt).toList ++
      (e.logLink.map FootnotePart.logLink).toList)
  else none

def toJson (e : TimelineEntry) : Json :=
  .ofMembers [
    ("description", .ofText e.description),
    ("createdDate", .ofText e.createdDate),
    ("failed", .bool e.failed),
    ("unmatchedStart", .bool e.unmatchedStart),
    ("attemptLabel", .ofOption e.attemptLabel .ofText),
    ("logLink", .ofOption e.logLink .ofText),
    ("needsFootnote", .bool e.needsFootnote)]

end TimelineEntry

/-- The entries of a timeline: one for each event, in order. -/
def timeline (events : List IngestEvent) : List TimelineEntry :=
  events.map TimelineEntry.ofEvent

end IngestViewer
