namespace IngestViewer

/-- The environment variables of a run, by name. -/
abbrev Variables := List (String × String)

namespace Variables

def get? (v : Variables) (name : String) : Option String :=
  v.lookup name

/-- The value of a variable, if it is set to anything. -/
def nonEmpty? (v : Variables) (name : String) : Option String :=
  (v.get? name).filter (· ≠ "")

end Variables

end IngestViewer
