import IngestViewer.Inspection
import IngestViewer.RecentIngests

namespace IngestViewer.Report

/-- Lines of text, each ended by a line feed. -/
def unlines (lines : List String) : String :=
  String.join (lines.map (· ++ "\n"))

/-- The width of the column of labels. -/
def labelWidth : Nat := 21

/-- A line with something in the column of labels. -/
def labelled (label value : String) : String :=
  "  " ++ label ++ String.ofList (List.replicate (labelWidth - label.length) ' ') ++ " " ++ value

def field (label value : String) : String :=
  labelled (label ++ ":") value

/-- A second line for the field above it. -/
def continuation (value : String) : String :=
  labelled "" value

/-- The lines of an event: what happened, marked if it is a failure, and where the logs are. -/
def eventLines (e : TimelineEntry) : List String :=
  let mark := if e.failed then "!" else "-"
  let footnote :=
    match e.footnote? with
    | some f => " " ++ f.text
    | none => ""
  ("    " ++ mark ++ " " ++ e.description ++ footnote) ::
    (e.logLink.map fun url => "        dev logs: " ++ url).toList

/-- The lines of a view before its events. -/
def headLines (v : IngestView) : List String :=
  ["Found ingest in the " ++ v.environment.text ++ " API:", "",
    v.id.text ++ ": " ++ v.status.text] ++
    (match v.source with
      | some source => [field "source location" source.display, continuation source.href]
      | none => []) ++
    [field "storage space" v.space, field "external identifier" v.externalIdentifier,
      field "version" v.versionText] ++
    (match v.bagLocations with
      | some l => [field "bag locations" l.primary.uri, continuation l.glacier.uri]
      | none => []) ++
    [field "created date" v.createdDisplay, field "last update" v.lastUpdatedDisplay] ++
    (match v.callback with
      | some c => [field "callback status" c.label]
      | none => [])

def ingestLines (v : IngestView) : List String :=
  headLines v ++ "  events:" :: v.events.flatMap eventLines

def ofIngest (v : IngestView) : String :=
  unlines (ingestLines v)

def ofFailure (v : FailureView) : String :=
  unlines [v.message, "", "Check the ingests API logs for more detail:", v.logsUrl]

def ofInspection : Inspection → String
  | .found view => ofIngest view
  | .failed view => ofFailure view

def recentLine (e : RecentIngest) : String :=
  "  " ++ e.ingestId.text ++ " – " ++ e.space ++ "/" ++ e.externalIdentifier

def ofRecent (es : List RecentIngest) : String :=
  if es.isEmpty then unlines ["No recently viewed ingests."]
  else unlines ("Recently viewed ingests:" :: es.map recentLine)

end IngestViewer.Report
