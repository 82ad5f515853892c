import IngestViewer.IngestView
import IngestViewer.LookupFailure

namespace IngestViewer

/-- A failed lookup as it is shown. -/
structure FailureView where
  ingestId : IngestId
  kind : FailureKind
  message : String
  logsUrl : String
deriving DecidableEq, Repr

namespace FailureView

/-- Where the logs of the ingest service can be searched. -/
def serviceLogs : String :=
  "https://logging.wellcomecollection.org/app/kibana#/discover?_g=()&_a=(columns:!(log)," ++
    "index:'6db79190-8556-11ea-8b79-41cfdb8d9024',interval:auto,query:(language:kuery," ++
    "query:'service_name%20:%20%22*-ingests-service%22'),sort:!(!('@timestamp',desc)))"

/-- What is shown of a failure: the ingest and the kind, but not the detail. -/
def ofFailure (e : LookupFailure) : FailureView :=
  ⟨e.id, e.kind, e.message, serviceLogs⟩

/-- The fields of the view, in order. -/
def members (v : FailureView) : List (String × Json) := [
  ("ingestId", .ofText v.ingestId.text),
  ("kind", .ofText v.kind.text),
  ("message", .ofText v.message),
  ("logsUrl", .ofText v.logsUrl)]

end FailureView

/-- What an inspection shows. -/
inductive Inspection where
  | found (view : IngestView)
  | failed (view : FailureView)
deriving DecidableEq, Repr

namespace Inspection

def isFound : Inspection → Bool
  | found _ => true
  | failed _ => false

def toJson : Inspection → Json
  | found view => .ofMembers (("outcome", .ofText "found") :: view.members)
  | failed view => .ofMembers (("outcome", .ofText "failed") :: view.members)

/-- Puts the result of a lookup into words. -/
def ofResult (f : TimeFormatter) (result : LookupResult) (c : Clock) : Inspection × Clock :=
  match result with
  | .ok record =>
    let (view, c) := IngestView.compose f record c
    (found view, c)
  | .error e => (failed (.ofFailure e), c)

end Inspection

end IngestViewer
