import IngestViewer.Gateway
import IngestViewer.HistoryStore
import IngestViewer.Inspector
import IngestViewer.PreferredLocale
import IngestViewer.Settings

namespace IngestViewer

/-- The observer that puts every record in front of the history. -/
def historyObserver {σ ε : Type} (slot : Slot σ ε) : Observer σ := fun r s =>
  match HistoryStore.record slot r s with
  | (.ok (), s) => (true, s)
  | (.error _, s) => (false, s)

/-- What the commands work with, in a world whose network has states `σ`. -/
structure Services (σ : Type) where
  endpoints : Endpoints
  network : Network σ
  history : FileStore
  formatter : TimeFormatter

namespace Services

variable {σ : Type}

/-- The services for a configuration whose endpoints can be read. -/
def ofSettings (settings : Settings) (history : FileStore) (network : Network σ) (tag : String)
    (zone : Zone) : Except EndpointFault (Services σ) := do
  let endpoints ← Endpoints.ofConfig settings.stagingUrl settings.productionUrl
  return ⟨endpoints, network, history, ⟨.builtin, tag, zone⟩⟩

/-- What is said of endpoints that cannot be read. -/
def faultMessage (e : EndpointFault) : String :=
  "Ingest API configuration invalid: " ++ e.fullMessage

/-- Looks an ingest up, remembers it if it is found, and puts the result into words. -/
def inspect (sv : Services σ) (id : IngestId) (selector : Selector) (c : Clock) (d : Disk) (n : σ) :
    Inspection × Disk × σ :=
  let (result, n) := Gateway.fetch sv.endpoints sv.network id selector n
  let (inspection, d, _) :=
    Inspector.inspect [historyObserver sv.history.historySlot] sv.formatter result d c
  (inspection, d, n)

/-- The ingests looked up last. -/
def recent (sv : Services σ) (d : Disk) :
    Except (HistoryFault FileStoreFault) (List RecentIngest) :=
  HistoryStore.list sv.history.historySlot d

end Services

end IngestViewer
