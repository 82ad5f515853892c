import IngestViewer.PathText
import IngestViewer.Variables

namespace IngestViewer

/-- Where the program keeps its files. -/
structure DataPaths where
  store : String
  logs : String
  settings : String
deriving DecidableEq, Repr

namespace DataPaths

def ofRoot (root : String) : DataPaths :=
  ⟨PathText.join root "store", PathText.join root "logs", PathText.join root "config.toml"⟩

/-- The name of the data folder. Each profile has a folder of its own. -/
def folderName (v : Variables) : String :=
  match v.nonEmpty? "II_PROFILE" with
  | some profile => "ingest-inspector-" ++ profile
  | none => "ingest-inspector"

/-- The folder where the programs of a user keep their data, if the user has a home. -/
def sharedFolder? (v : Variables) : Option String :=
  match (v.get? "XDG_DATA_HOME").filter PathText.isAbsolute with
  | some folder => some folder
  | none => (v.nonEmpty? "HOME").map (PathText.join · ".local/share")

/-- The data folder of the program, unless the settings name another one. -/
def defaultRoot? (v : Variables) : Option String :=
  (sharedFolder? v).map (PathText.join · (folderName v))

end DataPaths

end IngestViewer
