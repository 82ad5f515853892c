import IngestViewer.Route
import IngestViewer.Utf8

namespace IngestViewer

/-- Something on a disk. -/
inductive DiskNode where
  | file (bytes : List UInt8)
  | folder
deriving DecidableEq, Repr

/-- What is on a disk, by path. The root is a folder without an entry. -/
structure Disk where
  nodes : List (DiskPath × DiskNode)
deriving Repr

/-- What comes of reading a file. -/
inductive ReadOutcome where
  | missing
  | unreadable
  | content (bytes : List UInt8)
deriving DecidableEq, Repr

/-- What keeps a route from leading anywhere: nothing has one of its names, or the way is no way. -/
inductive Obstacle where
  | missing
  | blocked
deriving DecidableEq, Repr

/-- A change to a disk. -/
inductive DiskStep where
  | makeFolders (route : Route)
  | write (route : Route) (bytes : List UInt8)
  | rename (source target : Route)
deriving DecidableEq, Repr

/-- Trouble that is not of the disk's own making: a step is refused, or writing breaks off after so
many bytes. -/
inductive Mishap where
  | refused
  | brokenOff (count : Nat)
deriving DecidableEq, Repr

namespace Disk

def empty : Disk := ⟨[]⟩

/-- The longest name that a disk takes, in bytes. -/
def nameLimit : Nat := 255

def node? (d : Disk) (path : DiskPath) : Option DiskNode :=
  if path = [] then some .folder else d.nodes.lookup path

def isFolder (d : Disk) (path : DiskPath) : Bool :=
  d.node? path == some .folder

def set (d : Disk) (path : DiskPath) (n : DiskNode) : Disk :=
  ⟨(path, n) :: d.nodes.filter (·.1 ≠ path)⟩

def erase (d : Disk) (path : DiskPath) : Disk :=
  ⟨d.nodes.filter (·.1 ≠ path)⟩

/-- Whether something can have a name of its own. -/
def isNamable (name : String) : Bool :=
  name ≠ "." && name ≠ ".." && name.utf8ByteSize ≤ nameLimit

/-- Goes one name on. Only a folder has names in it, and dots too lead nowhere from a file. -/
def advance (d : Disk) (place : DiskPath) (name : String) : Except Obstacle DiskPath :=
  if !d.isFolder place || nameLimit < name.utf8ByteSize then .error .blocked
  else if (d.node? (Route.follow place name)).isSome then .ok (Route.follow place name)
  else .error .missing

/-- Goes along names, from folder to folder. -/
def walk (d : Disk) (place : DiskPath) (names : List String) : Except Obstacle DiskPath :=
  names.foldlM d.advance place

/-- The place where a route ends. -/
def lookup (d : Disk) (r : Route) : Except Obstacle DiskPath :=
  if !r.isUsable then .error .blocked
  else if r.text = "" then .error .missing
  else d.walk r.start (r.names ++ if r.asksFolder then ["."] else [])

/-- Whether there is anything at the end of a route. -/
def contains (d : Disk) (r : Route) : Bool :=
  (d.lookup r).isOk

def read (d : Disk) (r : Route) : ReadOutcome :=
  match d.lookup r with
  | .error .missing => .missing
  | .error .blocked => .unreadable
  | .ok place =>
    match d.node? place with
    | some (.file bytes) => .content bytes
    | _ => .unreadable

/-- What comes of reading a file as text. -/
inductive TextOutcome where
  | missing
  | unreadable
  | content (text : String)
deriving DecidableEq, Repr

def readText (d : Disk) (r : Route) : TextOutcome :=
  match d.read r with
  | .missing => .missing
  | .unreadable => .unreadable
  | .content bytes =>
    match Utf8.text? bytes with
    | some s => .content s
    | none => .unreadable

/-- The place that the last of some names has, or can have, in a folder that is there. -/
def site? (d : Disk) (start : DiskPath) (names : List String) : Option DiskPath :=
  match names.getLast?, d.walk start names.dropLast with
  | some name, .ok folder =>
    if d.isFolder folder && isNamable name then some (folder ++ [name]) else none
  | _, _ => none

/-- Makes one folder. One that is there already will do. -/
def makeFolder (d : Disk) (start : DiskPath) (names : List String) : Option Disk :=
  match d.walk start names with
  | .ok place => if d.isFolder place then some d else none
  | .error _ => (d.site? start names).map (d.set · .folder)

/-- Makes folders one after another, up to the first that cannot be made. Answers whether all of
them are there. -/
def makeEach (d : Disk) (start : DiskPath) : List (List String) → Bool × Disk
  | [] => (true, d)
  | names :: rest =>
    match d.makeFolder start names with
    | some d => d.makeEach start rest
    | none => (false, d)

/-- The names of the folders on the way to a folder, and its own ones at the end. The folder that
dots at the end stand for is not on the way. -/
def wayNames (names : List String) : List (List String) :=
  let above := (names.reverse.dropWhile (· == ".")).reverse.dropLast
  (List.range above.length).map (fun n => above.take (n + 1)) ++ [names]

/-- Makes the folder at the end of a route and the folders on the way. Those that were made before
one could not be made stay. -/
def makeFolders (d : Disk) (r : Route) : Bool × Disk :=
  if r.isUsable then d.makeEach r.start (wayNames r.names) else (false, d)

/-- The place where a file can be put at the end of a route. -/
def fileSite? (d : Disk) (r : Route) : Option DiskPath :=
  if r.isUsable && !r.asksFolder then (d.site? r.start r.names).filter (!d.isFolder ·) else none

def write (d : Disk) (r : Route) (bytes : List UInt8) : Option Disk :=
  (d.fileSite? r).map (d.set · (.file bytes))

/-- Moves a file, in place of one that is there. -/
def rename (d : Disk) (source target : Route) : Option Disk :=
  match d.lookup source, d.fileSite? target with
  | .ok old, some new =>
    match d.node? old with
    | some (.file bytes) => some ((d.erase old).set new (.file bytes))
    | _ => none
  | _, _ => none

/-- A change that is made as a whole or not at all. -/
def ofChange (d : Disk) : Option Disk → Bool × Disk
  | some changed => (true, changed)
  | none => (false, d)

/-- Takes a step. Answers whether it was done, and the disk afterwards. -/
def step (d : Disk) : DiskStep → Bool × Disk
  | .makeFolders route => d.makeFolders route
  | .write route bytes => ofChange d (d.write route bytes)
  | .rename source target => ofChange d (d.rename source target)

/-- Takes a step that may meet with trouble. Answers whether it was done, and the disk
afterwards. -/
def attempt (d : Disk) (s : DiskStep) : Option Mishap → Bool × Disk
  | none => d.step s
  | some .refused => (false, d)
  | some (.brokenOff count) =>
    match s with
    | .write route bytes => (false, (d.write route (bytes.take count)).getD d)
    | _ => (false, d)

end Disk

end IngestViewer
