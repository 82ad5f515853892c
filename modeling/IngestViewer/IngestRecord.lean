import IngestViewer.Environment
import IngestViewer.SourceLocation

namespace IngestViewer

/-- The name of an ingest. -/
structure IngestId where
  text : String
deriving DecidableEq, Repr

/-- Reads an id as a person types it: blanks around it do not count, and something must be left. -/
def IngestId.ofInput? (s : String) : Option IngestId :=
  if trimmed s = "" then none else some ⟨trimmed s⟩

/-- How far an ingest has got. A word that is none of the known ones is kept. -/
inductive IngestStatus where
  | accepted
  | processing
  | succeeded
  | failed
  | other (word : String)
deriving DecidableEq, Repr

namespace IngestStatus

def text : IngestStatus → String
  | accepted => "accepted"
  | processing => "processing"
  | succeeded => "succeeded"
  | failed => "failed"
  | other word => word

def ofText (s : String) : IngestStatus :=
  if s = "accepted" then accepted
  else if s = "processing" then processing
  else if s = "succeeded" then succeeded
  else if s = "failed" then failed
  else other s

theorem text_ofText (s : String) : (ofText s).text = s := by
  unfold ofText
  split
  next h => exact h.symm
  split
  next h => exact h.symm
  split
  next h => exact h.symm
  split
  next h => exact h.symm
  rfl

end IngestStatus

/-- The notification that a third party gets once an ingest is over. -/
structure Callback where
  status : String
  url : Option String := none
deriving DecidableEq, Repr

/-- Something that happened to an ingest. -/
structure IngestEvent where
  createdDate : String
  description : String
  repeated : Bool := false
  count : UInt32 := 1
  unmatchedStart : Bool := false
  logUrl : Option String := none
deriving DecidableEq, Repr

/-- What is known about an ingest. -/
structure IngestRecord where
  id : IngestId
  space : String
  externalIdentifier : String
  version : Option String := none
  status : IngestStatus
  createdDate : String
  lastUpdatedDate : Option String := none
  sourceLocation : Option SourceLocation := none
  s3Url : Option String := none
  displayS3Url : Option String := none
  callback : Option Callback := none
  environment : Environment
  events : List IngestEvent := []
deriving DecidableEq, Repr

/-- A text that is there and not empty. -/
def nonEmpty (s : Option String) : Option String :=
  s.filter (· ≠ "")

/-- The greatest text of a list in the order of code points. -/
def greatest? : List String → Option String
  | [] => none
  | s :: ss =>
    match greatest? ss with
    | some t => some (if s < t then t else s)
    | none => some s

namespace IngestRecord

/-- The version, unless it is blank. -/
def version? (r : IngestRecord) : Option String :=
  nonEmpty r.version

/-- The date of the last update: the one stated, or else the greatest date of an event. -/
def lastUpdated? (r : IngestRecord) : Option String :=
  (nonEmpty r.lastUpdatedDate).or (greatest? (r.events.map (·.createdDate)))

end IngestRecord

end IngestViewer
