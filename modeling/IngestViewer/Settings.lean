import IngestViewer.Disk
import IngestViewer.TomlReader

namespace IngestViewer

/-- What a person can set. An empty text stands for a setting that was left out, and no seconds
stand for requests that may take as long as they like. -/
structure Settings where
  stagingUrl : String := ""
  productionUrl : String := ""
  timeoutSeconds : Nat := 0
  locale : String := ""
  dataRoot : String := ""
deriving DecidableEq, Repr

inductive SettingsFault where
  | unreadable (path : String)
  | malformed
deriving DecidableEq, Repr

def SettingsFault.message : SettingsFault → String
  | unreadable path => "Failed to read config file: " ++ path
  | malformed => "Failed to parse config as TOML"

namespace Settings

/-- The text of a setting in a section. One that is no text counts as left out. -/
def textOf (t : Toml) (table name : String) : String :=
  (((t.get? table).bind (Toml.get? name)).bind Toml.text?).getD ""

/-- The seconds of a setting in a section. Fewer than none counts as none. -/
def secondsOf (t : Toml) (table name : String) : Nat :=
  ((((t.get? table).bind (Toml.get? name)).bind Toml.integer?).getD 0).toNat

def ofToml (t : Toml) : Settings where
  stagingUrl := textOf t "api" "staging_url"
  productionUrl := textOf t "api" "production_url"
  timeoutSeconds := secondsOf t "api" "request_timeout_secs"
  locale := textOf t "display" "locale"
  dataRoot := textOf t "storage" "data_dir"

/-- Reads the settings in a file. -/
def load (d : Disk) (workingDirectory : DiskPath) (path : String) : Except SettingsFault Settings :=
  match d.readText (Route.ofText workingDirectory path) with
  | .content text =>
    match Toml.parse text with
    | some t => .ok (ofToml t)
    | none => .error .malformed
  | _ => .error (.unreadable path)

/-- The settings of a run: of the file that was asked for, or else of the usual one if there is one.
Data go to the usual folder if the settings name none. -/
def resolve (d : Disk) (workingDirectory : DiskPath) (asked : Option String)
    (usual usualRoot : String) : Except SettingsFault Settings := do
  let settings ←
    match asked with
    | some path => load d workingDirectory path
    | none =>
      if d.contains (Route.ofText workingDirectory usual) then load d workingDirectory usual
      else .ok {}
  return if settings.dataRoot = "" then { settings with dataRoot := usualRoot } else settings

end Settings

end IngestViewer
