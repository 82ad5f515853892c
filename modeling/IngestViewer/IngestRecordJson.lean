import IngestViewer.IngestRecord
import IngestViewer.JsonFields
import IngestViewer.JsonWriter

namespace IngestViewer

/-- The text of a field that may be given as a string or as a number. -/
def Json.textOrNumber? : Json → Option String
  | .string s => s
  | .number n => n.text?
  | _ => none

/-- A number of 32 bits, written without point and exponent. -/
def Json.count? : Json → Option UInt32
  | .number n =>
    match n.integer? with
    | some i => if 0 ≤ i ∧ i < 0x100000000 then some i.toNat.toUInt32 else none
    | none => none
  | _ => none

/-- The text in the field `id` of a structure that has no other. -/
def Json.idField? (j : Json) : Option String := do
  let field ← j.fields ["id"]
  (← field "id").text?

/-- A structure of one field `id`. -/
def Json.ofId (s : String) : Json :=
  .ofMembers [("id", .ofText s)]

/-- A member that is left out if its value is missing. -/
def Json.optionalMember {α : Type} (name : String) (f : α → Json) (a : Option α) :
    List (String × Json) :=
  (a.map fun a => (name, f a)).toList

namespace SourceLocation

def ofJson? (j : Json) : Option SourceLocation := do
  let field ← j.fields ["bucket", "path"]
  let bucket ← (← field "bucket").text?
  let path ← (← field "path").text?
  some { bucket, path }

def toJson (l : SourceLocation) : Json :=
  .ofMembers [("bucket", .ofText l.bucket), ("path", .ofText l.path)]

end SourceLocation

namespace Callback

def ofJson? (j : Json) : Option Callback := do
  let field ← j.fields ["status", "url"]
  let status ← (← field "status").idField?
  let url ← Json.optional Json.text? (field "url")
  some { status, url }

def members (c : Callback) : List (String × Json) :=
  ("status", .ofId c.status) :: Json.optionalMember "url" .ofText c.url

def toJson (c : Callback) : Json :=
  .ofMembers c.members

end Callback

namespace IngestEvent

def fieldNames : List String :=
  ["createdDate", "description", "_repeated", "_count", "_is_unmatched_start", "kibanaUrl"]

def ofJson? (j : Json) : Option IngestEvent := do
  let field ← j.fields fieldNames
  let createdDate ← (← field "createdDate").text?
  let description ← (← field "description").text?
  let repeated ← Json.withDefault Json.bool? false (field "_repeated")
  let count ← Json.withDefault Json.count? 1 (field "_count")
  let unmatchedStart ← Json.withDefault Json.bool? false (field "_is_unmatched_start")
  let logUrl ← Json.optional Json.text? (field "kibanaUrl")
  some { createdDate, description, repeated, count, unmatchedStart, logUrl }

def members (e : IngestEvent) : List (String × Json) :=
  [("createdDate", .ofText e.createdDate),
    ("description", .ofText e.description),
    ("_repeated", .bool e.repeated),
    ("_count", .ofNat e.count.toNat),
    ("_is_unmatched_start", .bool e.unmatchedStart)] ++
    Json.optionalMember "kibanaUrl" .ofText e.logUrl

def toJson (e : IngestEvent) : Json :=
  .ofMembers e.members

/-- Reads a list of events. -/
def listOfJson? (j : Json) : Option (List IngestEvent) := do
  (← j.items?).mapM ofJson?

end IngestEvent

namespace IngestRecord

def fieldNames : List String :=
  ["id", "space", "bag", "status", "createdDate", "lastUpdatedDate", "sourceLocation", "s3Url",
    "displayS3Url", "callback", "environment", "events"]

/-- The identifier and the version in the description of a bag. -/
def bagOfJson? (j : Json) : Option (String × Option String) := do
  let bag ← j.fields ["info"]
  let info ← (← bag "info").fields ["externalIdentifier", "version"]
  let externalIdentifier ← (← info "externalIdentifier").text?
  let version ← Json.optional Json.textOrNumber? (info "version")
  some (externalIdentifier, version)

def bagInfoMembers (externalIdentifier : String) (version : Option String) :
    List (String × Json) :=
  ("externalIdentifier", .ofText externalIdentifier) ::
    Json.optionalMember "version" .ofText version

def bagToJson (externalIdentifier : String) (version : Option String) : Json :=
  .ofMembers [("info", .ofMembers (bagInfoMembers externalIdentifier version))]

def ofJson? (j : Json) : Option IngestRecord := do
  let field ← j.fields fieldNames
  let id ← (← field "id").text?
  let space ← (← field "space").idField?
  let (externalIdentifier, version) ← bagOfJson? (← field "bag")
  let status ← (← field "status").idField?
  let createdDate ← (← field "createdDate").text?
  let lastUpdatedDate ← Json.optional Json.text? (field "lastUpdatedDate")
  let sourceLocation ← Json.optional SourceLocation.ofJson? (field "sourceLocation")
  let s3Url ← Json.optional Json.text? (field "s3Url")
  let displayS3Url ← Json.optional Json.text? (field "displayS3Url")
  let callback ← Json.optional Callback.ofJson? (field "callback")
  let environment ← (← field "environment").text?
  let events ← Json.withDefault IngestEvent.listOfJson? [] (field "events")
  some {
    id := ⟨id⟩
    space, externalIdentifier, version
    status := .ofText status
    createdDate, lastUpdatedDate, sourceLocation, s3Url, displayS3Url, callback
    environment := .ofText environment
    events }

/-- The members of a record as it is written: fields in order, missing ones left out. -/
def members (r : IngestRecord) : List (String × Json) :=
  [("id", .ofText r.id.text),
    ("space", .ofId r.space),
    ("bag", bagToJson r.externalIdentifier r.version),
    ("status", .ofId r.status.text),
    ("createdDate", .ofText r.createdDate)] ++
    Json.optionalMember "lastUpdatedDate" .ofText r.lastUpdatedDate ++
    Json.optionalMember "sourceLocation" SourceLocation.toJson r.sourceLocation ++
    Json.optionalMember "s3Url" .ofText r.s3Url ++
    Json.optionalMember "displayS3Url" .ofText r.displayS3Url ++
    Json.optionalMember "callback" Callback.toJson r.callback ++
    [("environment", .ofText r.environment.text),
      ("events", .array (r.events.map IngestEvent.toJson))]

def toJson (r : IngestRecord) : Json :=
  .ofMembers r.members

/-- Reads a record straight from a text. -/
def ofText? (s : String) : Option IngestRecord := do
  ofJson? (← Json.read s)

/-- The text of a record. -/
def text (r : IngestRecord) : String :=
  r.toJson.compact

end IngestRecord

end IngestViewer
