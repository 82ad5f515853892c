import IngestViewer.Blank
import IngestViewer.LocaleRegistry
import IngestViewer.Variables

namespace IngestViewer.PreferredLocale

/-- The variables that name a locale, the one that counts most first. -/
def variableNames : List String :=
  ["LC_ALL", "LC_TIME", "LANG"]

/-- Whether a locale stands for no language. -/
def isNeutral (tag : String) : Bool :=
  tag = "C" || tag = "POSIX" || tag.startsWith "C."

/-- The first of the variables that is not empty, unless it stands for no language. -/
def ofVariables? (v : Variables) : Option String :=
  (variableNames.findSome? v.nonEmpty?).filter (!isNeutral ·)

/-- The locale that was asked for, unless it is blank; else that of the variables. -/
def choose (asked : Option String) (v : Variables) : String :=
  ((asked.filter (trimmed · ≠ "")).or (ofVariables? v)).getD LocaleRegistry.defaultTag

/-- The locale of a run. One on the command line, blank or not, stands in place of the one in the
settings. -/
def ofRun (onCommandLine : Option String) (inSettings : String) (v : Variables) : String :=
  choose (onCommandLine.or (some inSettings)) v

end IngestViewer.PreferredLocale
