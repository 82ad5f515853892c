import IngestViewer.IngestRecordJson
import IngestViewer.LookupFailure

namespace IngestViewer.ResponseBody

open Json (Members)

/-- The members of the record in a response: those of the member `ingest` if it is an object, with
the environment stated beside it in case it states none, and those of the response otherwise. -/
def recordMembers (ms : Members) : Members :=
  match ms.find? "ingest" with
  | some (.object inner) =>
    match Members.find? "environment" inner, ms.find? "environment" with
    | none, some e => Members.insert "environment" e inner
    | _, _ => inner
  | _ => ms

/-- Members with an environment: the one that was asked takes the place of one that is no string. -/
def tagged (asked : Environment) (ms : Members) : Members :=
  match ms.find? "environment" with
  | some (.string _) => ms
  | _ => ms.insert "environment" (.ofText asked.text)

/-- The record of a response in its flat form. -/
def normalize (asked : Environment) : Json → Json
  | .object ms => .object (tagged asked (recordMembers ms))
  | j => j

/-- Reads the record from the body of a successful response. -/
def record (asked : Environment) (body : String) : Except FailureDetail IngestRecord :=
  match Json.parse body with
  | none => .error .invalidBody
  | some j =>
    match IngestRecord.ofJson? (normalize asked j) with
    | some r => .ok r
    | none => .error .unexpectedShape

/-- The message in the body of any other response. A body that cannot be read has none. -/
def message? (body : String) : Option String := do
  let j ← Json.read body
  let field ← j.fields ["message"]
  (← Json.optional Json.text? (field "message"))

end IngestViewer.ResponseBody
