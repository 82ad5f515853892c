import IngestViewer.IngestRecordJson

namespace IngestViewer

/-- A remembered lookup, with the record as it was last seen. -/
structure RecentIngest where
  ingestId : IngestId
  space : String
  externalIdentifier : String
  ingest : IngestRecord
deriving DecidableEq, Repr

namespace RecentIngest

def ofRecord (r : IngestRecord) : RecentIngest :=
  ⟨r.id, r.space, r.externalIdentifier, r⟩

def fieldNames : List String :=
  ["ingestId", "space", "externalIdentifier", "ingest"]

def ofJson? (j : Json) : Option RecentIngest := do
  let field ← j.fields fieldNames
  let ingestId ← (← field "ingestId").text?
  let space ← (← field "space").text?
  let externalIdentifier ← (← field "externalIdentifier").text?
  let ingest ← IngestRecord.ofJson? (← field "ingest")
  some ⟨⟨ingestId⟩, space, externalIdentifier, ingest⟩

def toJson (e : RecentIngest) : Json :=
  .ofMembers [
    ("ingestId", .ofText e.ingestId.text),
    ("space", .ofText e.space),
    ("externalIdentifier", .ofText e.externalIdentifier),
    ("ingest", e.ingest.toJson)]

/-- Reads a list of entries. -/
def listOfJson? (j : Json) : Option (List RecentIngest) := do
  (← j.items?).mapM ofJson?

def listToJson (es : List RecentIngest) : Json :=
  .array (es.map toJson)

/-- Reads a list of entries straight from a text. -/
def listOfText? (s : String) : Option (List RecentIngest) := do
  listOfJson? (← Json.read s)

/-- The text of a list of entries. -/
def listText (es : List RecentIngest) : String :=
  (listToJson es).compact

end RecentIngest

/-- The ingests looked up last: the latest first, none twice, and not more than ten. -/
structure RecentIngests where
  entries : List RecentIngest
deriving DecidableEq, Repr

namespace RecentIngests

def capacity : Nat := 10

def empty : RecentIngests := ⟨[]⟩

/-- Puts an entry in front, instead of the one of the same ingest, and drops what is too much. -/
def pushFront (h : RecentIngests) (e : RecentIngest) : RecentIngests :=
  ⟨(e :: h.entries.filter (·.ingestId ≠ e.ingestId)).take capacity⟩

/-- The history that has the first of the entries in front. -/
def ofEntries (es : List RecentIngest) : RecentIngests :=
  es.foldr (fun e h => h.pushFront e) empty

def record (h : RecentIngests) (r : IngestRecord) : RecentIngests :=
  h.pushFront (.ofRecord r)

/-- Reads a history; a text that is none counts as an empty one. -/
def ofText (s : String) : RecentIngests :=
  ofEntries ((RecentIngest.listOfText? s).getD [])

def text (h : RecentIngests) : String :=
  RecentIngest.listText h.entries

end RecentIngests

end IngestViewer
