import IngestViewer.HeldValue
import IngestViewer.RecentIngests

namespace IngestViewer

/-- What values of a kind show to a reader of records. -/
class RecordSource (σ : Type) where
  isNull : σ → Bool
  text? : σ → Option String
  bool? : σ → Option Bool
  count? : σ → Option UInt32
  textOrNumber? : σ → Option String
  items? : σ → Option (List σ)
  fields : List String → σ → Option (String → Option σ)

namespace RecordSource

/-- A text that is read as it goes along. -/
instance : RecordSource Json where
  isNull
    | .null => true
    | _ => false
  text? := Json.text?
  bool? := Json.bool?
  count? := Json.count?
  textOrNumber? := Json.textOrNumber?
  items? := Json.items?
  fields := Json.fields

instance : RecordSource HeldValue where
  isNull := HeldValue.isNull
  text? := HeldValue.text?
  bool? := HeldValue.bool?
  count? := HeldValue.count?
  textOrNumber? := HeldValue.textOrNumber?
  items? := HeldValue.items?
  fields := HeldValue.fields

variable {σ : Type} [RecordSource σ] {α : Type}

/-- The value of a field that may be missing or null. -/
def optional (read : σ → Option α) : Option σ → Option (Option α)
  | none => some none
  | some x => if isNull x then some none else (read x).map some

/-- The value of a field that may be missing but not null. -/
def withDefault (read : σ → Option α) (default : α) : Option σ → Option α
  | none => some default
  | some x => read x

def list? (read : σ → Option α) (x : σ) : Option (List α) := do
  (← items? x).mapM read

def idField? (x : σ) : Option String := do
  let field ← fields ["id"] x
  text? (← field "id")

def sourceLocation? (x : σ) : Option SourceLocation := do
  let field ← fields ["bucket", "path"] x
  let bucket ← text? (← field "bucket")
  let path ← text? (← field "path")
  some { bucket, path }

def callback? (x : σ) : Option Callback := do
  let field ← fields ["status", "url"] x
  let status ← idField? (← field "status")
  let url ← optional text? (field "url")
  some { status, url }

def event? (x : σ) : Option IngestEvent := do
  let field ← fields IngestEvent.fieldNames x
  let createdDate ← text? (← field "createdDate")
  let description ← text? (← field "description")
  let repeated ← withDefault bool? false (field "_repeated")
  let count ← withDefault count? 1 (field "_count")
  let unmatchedStart ← withDefault bool? false (field "_is_unmatched_start")
  let logUrl ← optional text? (field "kibanaUrl")
  some { createdDate, description, repeated, count, unmatchedStart, logUrl }

def bag? (x : σ) : Option (String × Option String) := do
  let bag ← fields ["info"] x
  let info ← fields ["externalIdentifier", "version"] (← bag "info")
  let externalIdentifier ← text? (← info "externalIdentifier")
  let version ← optional textOrNumber? (info "version")
  some (externalIdentifier, version)

/-- Reads a record. -/
def record? (x : σ) : Option IngestRecord := do
  let field ← fields IngestRecord.fieldNames x
  let id ← text? (← field "id")
  let space ← idField? (← field "space")
  let (externalIdentifier, version) ← bag? (← field "bag")
  let status ← idField? (← field "status")
  let createdDate ← text? (← field "createdDate")
  let lastUpdatedDate ← optional text? (field "lastUpdatedDate")
  let sourceLocation ← optional sourceLocation? (field "sourceLocation")
  let s3Url ← optional text? (field "s3Url")
  let displayS3Url ← optional text? (field "displayS3Url")
  let callback ← optional callback? (field "callback")
  let environment ← text? (← field "environment")
  let events ← withDefault (list? event?) [] (field "events")
  some {
    id := ⟨id⟩
    space, externalIdentifier, version
    status := .ofText status
    createdDate, lastUpdatedDate, sourceLocation, s3Url, displayS3Url, callback
    environment := .ofText environment
    events }

def recentIngest? (x : σ) : Option RecentIngest := do
  let field ← fields RecentIngest.fieldNames x
  let ingestId ← text? (← field "ingestId")
  let space ← text? (← field "space")
  let externalIdentifier ← text? (← field "externalIdentifier")
  let ingest ← record? (← field "ingest")
  some ⟨⟨ingestId⟩, space, externalIdentifier, ingest⟩

end RecordSource

end IngestViewer
