import IngestViewer.TimeFormatter
import IngestViewer.Timeline

namespace IngestViewer

/-- A link and the text to show for it. -/
structure SourceLink where
  href : String
  display : String
deriving DecidableEq, Repr

/-- A copy of a bag in a bucket. -/
structure BagLocation where
  bucket : String
  path : String
deriving DecidableEq, Repr

namespace BagLocation

def uri (l : BagLocation) : String :=
  "s3://" ++ l.bucket ++ "/" ++ l.path

def consoleUrl (l : BagLocation) : String :=
  "https://s3.console.aws.amazon.com/s3/buckets/" ++ l.bucket ++ "/" ++ l.path ++
    "/?region=eu-west-1&tab=overview"

def toJson (l : BagLocation) : Json :=
  .ofMembers [("bucket", .ofText l.bucket), ("uri", .ofText l.uri),
    ("consoleUrl", .ofText l.consoleUrl)]

end BagLocation

/-- The two copies of a stored bag. -/
structure BagLocations where
  primary : BagLocation
  glacier : BagLocation
deriving DecidableEq, Repr

/-- A callback's status as it is shown and as it was stated. -/
structure CallbackStatus where
  label : String
  raw : String
deriving DecidableEq, Repr

/-- An ingest as it is shown. -/
structure IngestView where
  id : IngestId
  environment : Environment
  status : IngestStatus
  space : String
  externalIdentifier : String
  version : Option String
  bagPath : String
  source : Option SourceLink
  bagLocations : Option BagLocations
  createdDate : String
  createdDisplay : String
  lastUpdatedDate : Option String
  lastUpdatedDisplay : String
  callback : Option CallbackStatus
  events : List TimelineEntry
deriving DecidableEq, Repr

/-- What is shown in the place of a date that cannot be read. -/
def unknownDate : String := "unknown date"

def CallbackStatus.ofCallback (c : Callback) : CallbackStatus :=
  ⟨if c.status = "processing" then "pending" else c.status, c.status⟩

namespace IngestRecord

/-- The place of the bag inside a bucket. -/
def bagPath (r : IngestRecord) : String :=
  r.space ++ "/" ++ r.externalIdentifier ++ "/" ++ r.version?.getD ""

/-- The copies of the bag. There are none before the ingest has succeeded. -/
def bagLocations? (r : IngestRecord) : Option BagLocations :=
  if r.status = .succeeded then
    some ⟨⟨r.environment.primaryBucket, r.bagPath⟩, ⟨r.environment.glacierBucket, r.bagPath⟩⟩
  else none

/-- The link to the source: links of the record go before those made from the location. -/
def sourceLink? (r : IngestRecord) : Option SourceLink :=
  match nonEmpty r.s3Url, nonEmpty r.displayS3Url, r.sourceLocation with
  | some href, some display, _ => some ⟨href, display⟩
  | some href, none, some l => some ⟨href, l.displayUri⟩
  | some href, none, none => some ⟨href, href⟩
  | none, display, some l => some ⟨l.consoleUrl, display.getD l.displayUri⟩
  | none, _, none => none

end IngestRecord

namespace IngestView

/-- The words for a date, with the recency behind it. The clock is read for each of the two. -/
def recentDisplay (f : TimeFormatter) (timestamp : String) (c : Clock) : String × Clock :=
  match f.localize timestamp c with
  | (.ok moment, c) =>
    match f.deltaSuffix timestamp c with
    | (.ok suffix, c) => (moment ++ suffix, c)
    | (.error _, c) => (unknownDate, c)
  | (.error _, c) => (unknownDate, c)

/-- The words for a date. -/
def display (f : TimeFormatter) (timestamp : String) (c : Clock) : String × Clock :=
  match f.localize timestamp c with
  | (.ok moment, c) => (moment, c)
  | (.error _, c) => (unknownDate, c)

def lastUpdatedDisplayOf (f : TimeFormatter) (timestamp : Option String) (c : Clock) :
    String × Clock :=
  match timestamp with
  | some timestamp => recentDisplay f timestamp c
  | none => (unknownDate, c)

/-- The view of a record. A date that cannot be read has a placeholder in its stead. The last update
is put into words before the creation. -/
def compose (f : TimeFormatter) (r : IngestRecord) (c : Clock) : IngestView × Clock :=
  let (lastUpdatedDisplay, c) := lastUpdatedDisplayOf f r.lastUpdated? c
  let (createdDisplay, c) := display f r.createdDate c
  ({ id := r.id
     environment := r.environment
     status := r.status
     space := r.space
     externalIdentifier := r.externalIdentifier
     version := r.version?
     bagPath := r.bagPath
     source := r.sourceLink?
     bagLocations := r.bagLocations?
     createdDate := r.createdDate
     createdDisplay
     lastUpdatedDate := r.lastUpdated?
     lastUpdatedDisplay
     callback := r.callback.map CallbackStatus.ofCallback
     events := timeline r.events }, c)

/-- The version in words. -/
def versionText (v : IngestView) : String :=
  v.version.getD "none assigned"

def versionJson (v : IngestView) : Json :=
  match v.version with
  | some version => .ofMembers [("kind", .ofText "assigned"), ("value", .ofText version)]
  | none => .ofMembers [("kind", .ofText "none_assigned")]

def sourceJson (s : SourceLink) : Json :=
  .ofMembers [("href", .ofText s.href), ("display", .ofText s.display)]

def bagLocationsJson (l : BagLocations) : Json :=
  .ofMembers [("primary", l.primary.toJson), ("glacier", l.glacier.toJson)]

def callbackJson (c : CallbackStatus) : Json :=
  .ofMembers [("label", .ofText c.label), ("rawStatus", .ofText c.raw)]

/-- The fields of the view, in order. -/
def members (v : IngestView) : List (String × Json) := [
  ("id", .ofText v.id.text),
  ("environment", .ofText v.environment.text),
  ("status", .ofText v.status.text),
  ("space", .ofText v.space),
  ("externalIdentifier", .ofText v.externalIdentifier),
  ("version", v.versionJson),
  ("bagPath", .ofText v.bagPath),
  ("source", .ofOption v.source sourceJson),
  ("bagLocations", .ofOption v.bagLocations bagLocationsJson),
  ("createdDate", .ofText v.createdDate),
  ("createdDisplay", .ofText v.createdDisplay),
  ("lastUpdatedDate", .ofOption v.lastUpdatedDate .ofText),
  ("lastUpdatedDisplay", .ofText v.lastUpdatedDisplay),
  ("callback", .ofOption v.callback callbackJson),
  ("events", .array (v.events.map TimelineEntry.toJson))]

end IngestView

end IngestViewer
