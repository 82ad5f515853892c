import IngestViewer.Disk
import IngestViewer.Quoted

namespace IngestViewer

/-- A store that keeps the text of each key in a file of its own, below one folder. -/
structure FileStore where
  root : String
  workingDirectory : DiskPath := []

/-- What went wrong with a file store, with the paths as they were named. -/
inductive FileStoreFault where
  | invalidKey (key : String)
  | createFolder (root : String)
  | readFile (path : String)
  | writeTemporary (path : String)
  | renameTemporary (temporary path : String)
deriving DecidableEq, Repr

def FileStoreFault.message : FileStoreFault → String
  | invalidKey key => "invalid store key: " ++ quoted key
  | createFolder root => "create store dir failed: " ++ root
  | readFile path => "read store file failed: " ++ path
  | writeTemporary path => "write temp store file failed: " ++ path
  | renameTemporary temporary path =>
    "rename temp store file to target failed: " ++ temporary ++ " -> " ++ path

namespace FileStore

def isKeyChar (c : Char) : Bool :=
  c.isAlphanum || c == '-' || c == '_'

/-- A key is made of ASCII letters, digits, hyphens and underscores, and is not empty. -/
def isKey (key : String) : Bool :=
  key ≠ "" && key.toList.all isKeyChar

/-- The name of the file that holds a key's text. -/
def fileName (key : String) : String := key ++ ".json"

/-- The name of the file that a key's text is written to first. -/
def temporaryName (key : String) : String := key ++ ".json.tmp"

def filePath (s : FileStore) (key : String) : String :=
  PathText.join s.root (fileName key)

def temporaryPath (s : FileStore) (key : String) : String :=
  PathText.join s.root (temporaryName key)

/-- The way to a path that the store names. -/
def route (s : FileStore) (path : String) : Route :=
  .ofText s.workingDirectory path

/-- The text of a key. -/
def get (s : FileStore) (d : Disk) (key : String) : Except FileStoreFault (Option String) :=
  if isKey key then
    match d.readText (s.route (s.filePath key)) with
    | .missing => .ok none
    | .content text => .ok (some text)
    | .unreadable => .error (.readFile (s.filePath key))
  else .error (.invalidKey key)

/-- The steps that set a key's text, each with what to report if it fails. The text goes to a
temporary file that then takes the place of the key's own, so that a reader sees the old text or the
new one. -/
def setSteps (s : FileStore) (key value : String) : List (DiskStep × FileStoreFault) :=
  let (temporary, file) := (s.temporaryPath key, s.filePath key)
  [(.makeFolders (s.route s.root), .createFolder s.root),
    (.write (s.route temporary) (Utf8.bytes value), .writeTemporary temporary),
    (.rename (s.route temporary) (s.route file), .renameTemporary temporary file)]

/-- Takes steps up to the first that fails. -/
def run (trouble : DiskStep → Option Mishap) (d : Disk) :
    List (DiskStep × FileStoreFault) → Except FileStoreFault Unit × Disk
  | [] => (.ok (), d)
  | (s, fault) :: rest =>
    match d.attempt s (trouble s) with
    | (true, d) => run trouble d rest
    | (false, d) => (.error fault, d)

/-- Sets the text of a key, with trouble at some of the steps. -/
def setAmid (s : FileStore) (trouble : DiskStep → Option Mishap) (d : Disk) (key value : String) :
    Except FileStoreFault Unit × Disk :=
  if isKey key then run trouble d (s.setSteps key value) else (.error (.invalidKey key), d)

/-- Sets the text of a key. -/
def set (s : FileStore) (d : Disk) (key value : String) : Except FileStoreFault Unit × Disk :=
  s.setAmid (fun _ => none) d key value

end FileStore

end IngestViewer
