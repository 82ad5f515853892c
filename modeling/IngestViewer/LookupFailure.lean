import IngestViewer.IngestRecord

namespace IngestViewer

/-- What went wrong with a lookup, apart from the two answers that the service has a word for. -/
inductive FailureDetail where
  | invalidBody
  | unexpectedShape
  | timedOut
  | connectionFailed
  | requestFailed
  | status (code : Nat) (message : Option String)
  | noBase (url : String)
  | other (text : String)
deriving DecidableEq, Repr

def FailureDetail.text : FailureDetail → String
  | invalidBody => "invalid JSON body"
  | unexpectedShape => "unexpected ingest shape"
  | timedOut => "request timed out"
  | connectionFailed => "connection failed"
  | requestFailed => "request failed"
  | status code (some message) => "HTTP " ++ toString code ++ ": " ++ message
  | status code none => "HTTP " ++ toString code
  | noBase url => url ++ " cannot be a base URL"
  | other text => text

inductive LookupFault where
  | invalidIngestId
  | ingestNotFound
  | unknown (detail : FailureDetail)
deriving DecidableEq, Repr

/-- A lookup that found no record: of which ingest, and why. -/
structure LookupFailure where
  id : IngestId
  fault : LookupFault
deriving DecidableEq, Repr

/-- What a person is told about a failed lookup. -/
inductive FailureKind where
  | invalidIngestId
  | ingestNotFound
  | unknownLookupFailure
deriving DecidableEq, Repr

def FailureKind.text : FailureKind → String
  | invalidIngestId => "invalid_ingest_id"
  | ingestNotFound => "ingest_not_found"
  | unknownLookupFailure => "unknown_lookup_failure"

def LookupFault.kind : LookupFault → FailureKind
  | invalidIngestId => .invalidIngestId
  | ingestNotFound => .ingestNotFound
  | unknown _ => .unknownLookupFailure

def LookupFault.detail? : LookupFault → Option FailureDetail
  | unknown detail => some detail
  | _ => none

namespace LookupFailure

def kind (e : LookupFailure) : FailureKind := e.fault.kind

def isNotFound (e : LookupFailure) : Bool :=
  e.kind == .ingestNotFound

def message (e : LookupFailure) : String :=
  match e.kind with
  | .invalidIngestId => "The ingest ID " ++ e.id.text ++ " is not valid."
  | .ingestNotFound => "Could not find ingest " ++ e.id.text ++ "."
  | .unknownLookupFailure => "Something went wrong while looking up ingest " ++ e.id.text ++ "."

/-- The message of the service for an id that is none. -/
def invalidIdMessage : String := "Invalid ingest ID."

/-- The message of the service for an id that it has no ingest for. -/
def notFoundMessage : String := "Ingest not found."

/-- The fault behind a response that is not a success: told by its message, or by its status code if
it has none. -/
def faultOf (code : Nat) (message : Option String) : LookupFault :=
  match message with
  | some m =>
    if m = invalidIdMessage then .invalidIngestId
    else if m = notFoundMessage then .ingestNotFound
    else .unknown (.status code (some m))
  | none =>
    if code = 400 then .invalidIngestId
    else if code = 404 then .ingestNotFound
    else .unknown (.status code none)

def ofResponse (id : IngestId) (code : Nat) (message : Option String) : LookupFailure :=
  ⟨id, faultOf code message⟩

end LookupFailure

/-- What a lookup ends with. -/
abbrev LookupResult := Except LookupFailure IngestRecord

end IngestViewer
