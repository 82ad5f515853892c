import IngestViewer.Blank

namespace IngestViewer

/-- The deployment an ingest lives in. -/
inductive Environment where
  | staging
  | production
deriving DecidableEq, Repr

namespace Environment

/-- Everything that is not exactly the word `production` means staging. -/
def ofText (s : String) : Environment :=
  if s = "production" then production else staging

def text : Environment → String
  | staging => "staging"
  | production => "production"

theorem ofText_text (e : Environment) : ofText e.text = e := by
  cases e <;> decide

/-- The bucket that holds an environment's bags. -/
def primaryBucket : Environment → String
  | staging => "wellcomecollection-storage-staging"
  | production => "wellcomecollection-storage"

/-- The bucket that an environment's bags are copied to for cold storage. -/
def glacierBucket : Environment → String
  | staging => "wellcomecollection-storage-staging-replica-ireland"
  | production => "wellcomecollection-storage-replica-ireland"

end Environment

/-- Which environments a lookup asks. -/
inductive Selector where
  | auto
  | only (e : Environment)
deriving DecidableEq, Repr

/-- A text that names no selector. -/
structure UnknownEnvironment where
  input : String
deriving DecidableEq, Repr

def UnknownEnvironment.message (e : UnknownEnvironment) : String :=
  "unknown environment '" ++ e.input ++ "', expected one of: auto, staging, production"

namespace Selector

/-- The environments to ask, in order. -/
def candidates : Selector → List Environment
  | auto => [.production, .staging]
  | only e => [e]

def text : Selector → String
  | auto => "auto"
  | only e => e.text

/-- Reads a selector: blanks around it and the case of ASCII letters do not count. -/
def ofText (s : String) : Except UnknownEnvironment Selector :=
  match (trimmed s).toLower with
  | "auto" => .ok auto
  | "staging" | "stage" => .ok (only .staging)
  | "production" | "prod" => .ok (only .production)
  | _ => .error ⟨s⟩

end Selector

end IngestViewer
