import IngestViewer.PathText

namespace IngestViewer

/-- The names on the way from the root of a disk to a place on it. -/
abbrev DiskPath := List String

/-- The text of a path, and the place from which it is followed. -/
structure Route where
  start : DiskPath
  text : String
deriving DecidableEq, Repr

namespace Route

/-- The route of a path that is looked at from a working directory. -/
def ofText (workingDirectory : DiskPath) (path : String) : Route :=
  ⟨if PathText.isAbsolute path then [] else workingDirectory, path⟩

/-- How many bytes the text of a route may have. -/
def sizeLimit : Nat := 4095

/-- Whether a disk takes the text of a route at all: it is not too long, and has no null character
in it. -/
def isUsable (r : Route) : Bool :=
  r.text.utf8ByteSize ≤ sizeLimit && r.text.toList.all (· ≠ '\x00')

/-- The names between the slashes. -/
def names (r : Route) : List String :=
  ((segments '/' r.text.toList).map String.ofList).filter (· ≠ "")

/-- Whether a route can end in a folder only: there is a slash at its end. -/
def asksFolder (r : Route) : Bool := r.text.endsWith "/"

/-- Where a name leads from a place: one dot stays, two dots go back. -/
def follow (place : DiskPath) (name : String) : DiskPath :=
  if name = "." then place else if name = ".." then place.dropLast else place ++ [name]

/-- The places that a route comes by. -/
def places (r : Route) : List DiskPath :=
  (List.range (r.names.length + 1)).map fun n => (r.names.take n).foldl follow r.start

end Route

end IngestViewer
