import IngestViewer.Program

namespace IngestViewer.Footprint

variable {σ : Type}

/-- The proper beginnings of a path, the shortest first. -/
def ancestors (path : DiskPath) : List DiskPath :=
  (List.range path.length).map path.take

/-- The places that matter for some paths: those that their routes come by, and those above. -/
def places (s : Surroundings σ) (paths : List String) : List DiskPath :=
  (paths.flatMap fun path => (Route.ofText s.workingDirectory path).places).flatMap fun place =>
    ancestors place ++ [place]

/-- The places that matter for the settings of a call. -/
def settingsPlaces (s : Surroundings σ) (call : Invocation) : List DiskPath :=
  let usual := (DataPaths.defaultRoot? s.vars).map fun root => (DataPaths.ofRoot root).settings
  places s (call.settings.toList ++ usual.toList)

/-- The places that matter for the data of a call, as far as they can be told from a disk that holds
the settings. -/
def dataPlaces (s : Surroundings σ) (call : Invocation) (d : Disk) : List DiskPath :=
  match Program.settingsOf s call d with
  | .error _ => []
  | .ok settings =>
    let paths := DataPaths.ofRoot settings.dataRoot
    let store : FileStore := { root := paths.store }
    places s [PathText.join paths.logs Program.logName, store.filePath HistoryStore.key,
      store.temporaryPath HistoryStore.key]

end IngestViewer.Footprint
