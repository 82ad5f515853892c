import IngestViewer.ResponseBody
import IngestViewer.UrlReader

namespace IngestViewer

/-- The collections of ingests that the environments have. -/
structure Endpoints where
  staging : Url
  production : Url
deriving DecidableEq, Repr

/-- A text that is configured as an endpoint but is no URL. -/
structure EndpointFault where
  text : String
  fault : UrlFault
deriving DecidableEq, Repr

def EndpointFault.message (e : EndpointFault) : String :=
  "invalid ingest API url: " ++ e.text

/-- The message with the reason behind it. -/
def EndpointFault.fullMessage (e : EndpointFault) : String :=
  e.message ++ ": " ++ e.fault.message

namespace Endpoints

def defaultStaging : String :=
  "https://api-stage.wellcomecollection.org/storage/v1/ingests"

def defaultProduction : String :=
  "https://api.wellcomecollection.org/storage/v1/ingests"

/-- Reads an endpoint. A blank text stands for the default. -/
def read (text default : String) : Except EndpointFault Url :=
  let text := if trimmed text = "" then default else trimmed text
  match Url.parse text with
  | .ok url => .ok url
  | .error fault => .error ⟨text, fault⟩

def ofConfig (staging production : String) : Except EndpointFault Endpoints := do
  let staging ← read staging defaultStaging
  let production ← read production defaultProduction
  return { staging, production }

def base (e : Endpoints) : Environment → Url
  | .staging => e.staging
  | .production => e.production

end Endpoints

/-- What becomes of a request. -/
inductive Reply where
  | answered (status : Nat) (body : List UInt8)
  | timedOut
  | unreachable
  | broken
deriving DecidableEq, Repr

/-- The network, in a world of states `σ`: what becomes of a request for a URL. -/
abbrev Network (σ : Type) := Url → σ → Reply × σ

namespace Gateway

variable {σ : Type}

/-- The result of a reply from an environment. -/
def resultOf (id : IngestId) (asked : Environment) : Reply → LookupResult
  | .timedOut => .error ⟨id, .unknown .timedOut⟩
  | .unreachable => .error ⟨id, .unknown .connectionFailed⟩
  | .broken => .error ⟨id, .unknown .requestFailed⟩
  | .answered status body =>
    let text := Utf8.lossyText body
    if status = 200 then
      match ResponseBody.record asked text with
      | .ok r => .ok r
      | .error detail => .error ⟨id, .unknown detail⟩
    else .error (.ofResponse id status (ResponseBody.message? text))

/-- How many bytes the text of a URL may have in a request. -/
def urlSizeLimit : Nat := 65534

/-- Whether a host can stand in a request: some characters of a host have no place there. -/
def isRequestableHost (host : String) : Bool :=
  !host.toList.any (· ∈ ['"', '\x60', '\x7b', '\x7d'])

/-- Whether a request can be made for a URL at all. Credentials are sent beside it. -/
def isRequestable (url : Url) : Bool :=
  (url.scheme == "http" || url.scheme == "https") &&
    isRequestableHost (url.host.getD "") &&
    { url with credentials := none }.text.utf8ByteSize ≤ urlSizeLimit

/-- Asks one environment. -/
def fetchFrom (endpoints : Endpoints) (network : Network σ) (id : IngestId) (asked : Environment)
    (s : σ) : LookupResult × σ :=
  match (endpoints.base asked).member? id.text with
  | none => (.error ⟨id, .unknown (.noBase (endpoints.base asked).text)⟩, s)
  | some url =>
    if isRequestable url then
      let (reply, s) := network url s
      (resultOf id asked reply, s)
    else (.error ⟨id, .unknown .requestFailed⟩, s)

/-- Asks environments one after another, as long as they have no such ingest. -/
def fetchAll (endpoints : Endpoints) (network : Network σ) (id : IngestId) :
    List Environment → σ → LookupResult × σ
  | [], s => (.error ⟨id, .ingestNotFound⟩, s)
  | e :: es, s =>
    match fetchFrom endpoints network id e s with
    | (.error ⟨_, .ingestNotFound⟩, s) => fetchAll endpoints network id es s
    | result => result

/-- Looks an ingest up in the environments of a selector. -/
def fetch (endpoints : Endpoints) (network : Network σ) (id : IngestId) (selector : Selector)
    (s : σ) : LookupResult × σ :=
  fetchAll endpoints network id selector.candidates s

end Gateway

end IngestViewer
