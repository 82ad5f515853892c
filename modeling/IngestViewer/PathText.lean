import IngestViewer.Segments

namespace IngestViewer.PathText

/-- A path inside another one. An absolute path stays as it is. -/
def join (base name : String) : String :=
  if name.startsWith "/" then name
  else if base = "" || base.endsWith "/" then base ++ name
  else base ++ "/" ++ name

def isAbsolute (path : String) : Bool :=
  path.startsWith "/"

end IngestViewer.PathText
