import IngestViewer.Segments

namespace IngestViewer

/-- Where a bag was uploaded from. -/
structure SourceLocation where
  bucket : String
  path : String
deriving DecidableEq, Repr

namespace SourceLocation

/-- The folder part and the name part of the path, divided at the last slash. -/
def folderAndName (l : SourceLocation) : String × String :=
  match cutLast '/' l.path.toList with
  | some (folder, name) => (String.ofList folder, String.ofList name)
  | none => ("", l.path)

/-- The console page of the folder, narrowed down to the object's name. -/
def consoleUrl (l : SourceLocation) : String :=
  "https://s3.console.aws.amazon.com/s3/buckets/" ++ l.bucket ++ "/" ++ l.folderAndName.1 ++
    "/?tab=overview&prefixSearch=" ++ l.folderAndName.2 ++ "&region=eu-west-1"

/-- Buckets with this in their name hold long generated paths. -/
def longPathMark : String := "archivematica-ingests"

/-- The address to show. Of a long generated path only the first and the last segment are kept. -/
def displayUri (l : SourceLocation) : String :=
  let whole := "s3://" ++ l.bucket ++ "/" ++ l.path
  if occursIn longPathMark.toList l.bucket.toList then
    match segments '/' l.path.toList with
    | first :: second :: rest =>
      "s3://" ++ l.bucket ++ "/" ++ String.ofList first ++ "/.../" ++
        String.ofList ((second :: rest).getLast (by simp))
    | _ => whole
  else whole

end SourceLocation

end IngestViewer
