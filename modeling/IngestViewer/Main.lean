import IngestViewer.Footprint
import Std.Time.DateTime.Timestamp

namespace IngestViewer.Shell

/-- The variables that a run takes notice of. -/
def variableNames : List String :=
  ["HOME", "XDG_DATA_HOME", "II_PROFILE"] ++ PreferredLocale.variableNames

def readVariables : IO Variables := do
  let values ← variableNames.mapM fun name => return (← IO.getEnv name).map ((name, ·))
  return values.filterMap id

def absolutePath (path : DiskPath) : String :=
  "/" ++ "/".intercalate path

/-- What is at a path of the machine's own disk. -/
def readNode (path : DiskPath) : IO (Option DiskNode) := do
  try return some (.file (← IO.FS.readBinFile (absolutePath path)).toList)
  catch _ =>
    if ← ((← IO.currentDir) / absolutePath path).isDir then return some .folder else return none

/-- What is at some places. -/
def readDisk (places : List DiskPath) : IO Disk := do
  let nodes ← (places.eraseDups.filter (· ≠ [])).mapM fun p =>
    return (← readNode p).map ((p, ·))
  return ⟨nodes.filterMap id⟩

/-- Brings a change to the machine's own disk. A new text takes the place of an old one at once. -/
def writeNode (path : DiskPath) : DiskNode → IO Unit
  | .folder => IO.FS.createDirAll (absolutePath path)
  | .file bytes => do
    let temporary := absolutePath path ++ ".tmp"
    IO.FS.writeBinFile temporary ⟨bytes.toArray⟩
    IO.FS.rename temporary (absolutePath path)

def writeChanges (before after : Disk) : IO Unit := do
  let changes := after.nodes.filter fun (p, n) => before.node? p != some n
  for (p, n) in changes.mergeSort fun a b => a.1.length ≤ b.1.length do
    writeNode p n

/-- A run has no connection to the network. -/
def noNetwork : Network Unit := fun _ s => (.unreachable, s)

def readSurroundings : IO (Surroundings Unit) := do
  let now ← Std.Time.Timestamp.now
  return {
    vars := ← readVariables
    workingDirectory := (Route.ofText [] (← IO.currentDir).toString).names
    clock := .still (.ofMillis now.toMillisecondsSinceUnixEpoch.val)
    zone := .fixed 0
    network := fun _ => noNetwork }

/-- Runs the program on the machine's own disk. -/
def run (arguments : List String) : IO UInt32 := do
  let surroundings ← readSurroundings
  let before ←
    match CommandLine.parse arguments with
    | .error _ => pure .empty
    | .ok call =>
      let places := Footprint.settingsPlaces surroundings call
      let found ← readDisk places
      readDisk (places ++ Footprint.dataPlaces surroundings call found)
  let (outcome, after, _) := Program.run surroundings arguments before ()
  writeChanges before after
  IO.print outcome.output
  IO.eprint outcome.complaint
  return UInt32.ofNat outcome.status.code

end IngestViewer.Shell

def main (arguments : List String) : IO UInt32 :=
  IngestViewer.Shell.run arguments
