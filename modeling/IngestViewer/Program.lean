import IngestViewer.CommandLine
import IngestViewer.DataPaths
import IngestViewer.HelpText
import IngestViewer.Report
import IngestViewer.Services

namespace IngestViewer

/-- How a run ends. -/
inductive ExitStatus where
  | success
  | failure
  | misuse
  | crash
deriving DecidableEq, Repr

def ExitStatus.code : ExitStatus → Nat
  | success => 0
  | failure => 1
  | misuse => 2
  | crash => 101

/-- What a run leaves behind for the person who started it. -/
structure Outcome where
  status : ExitStatus
  output : String := ""
  complaint : String := ""
deriving DecidableEq, Repr

namespace Outcome

def failed (message : String) : Outcome :=
  { status := .failure, complaint := "error: " ++ message ++ "\n" }

/-- The outcome of a command line that is not carried out. -/
def ofStop : UsageStop → Outcome
  | .helpWanted topic => { status := .success, output := Report.unlines (HelpText.lines topic) }
  | .versionWanted => { status := .success, output := Report.unlines [HelpText.version] }
  | .nothingGiven =>
    { status := .misuse, complaint := Report.unlines (HelpText.lines none) }
  | stop => { status := .misuse, complaint := "error: " ++ HelpText.complaint stop ++ "\n" }

/-- The outcome of a lookup. It is a success if the ingest was found. -/
def ofInspection (json : Bool) (i : Inspection) : Outcome where
  status := if i.isFound then .success else .failure
  output := if json then i.toJson.pretty ++ "\n" else Report.ofInspection i

/-- The outcome of listing the history. -/
def ofRecent : Except (HistoryFault FileStoreFault) (List RecentIngest) → Outcome
  | .ok es => { status := .success, output := Report.ofRecent es }
  | .error e => failed (e.message ++ ": " ++ e.cause.message)

end Outcome

/-- What a run finds around it, in a world whose network has states `σ`. The network is told how
many seconds a request may take; none stands for no limit. -/
structure Surroundings (σ : Type) where
  vars : Variables
  workingDirectory : DiskPath
  clock : Clock
  zone : Zone
  network : Nat → Network σ

namespace Program

variable {σ : Type}

def logName : String := "ingest-inspector.log"

/-- Opens the log below a folder. There is no log if the folder cannot be made, and no run if there
is something else in the place of the log. -/
def openLog (d : Disk) (workingDirectory : DiskPath) (folder : String) : Option Disk :=
  match d.makeFolders (.ofText workingDirectory folder) with
  | (false, d) => some d
  | (true, d) =>
    let log := Route.ofText workingDirectory (PathText.join folder logName)
    match d.read log with
    | .content _ => some d
    | .missing => d.write log []
    | .unreadable => none

/-- Carries a command out. -/
def perform (sv : Services σ) (clock : Clock) (command : Command) (d : Disk) (n : σ) :
    Outcome × Disk × σ :=
  match command with
  | .lookup id selector json =>
    let (inspection, d, n) := sv.inspect id selector clock d n
    (.ofInspection json inspection, d, n)
  | .recent => (.ofRecent (sv.recent d), d, n)

/-- The settings that apply to a call. -/
def settingsOf (s : Surroundings σ) (call : Invocation) (d : Disk) : Except String Settings :=
  match DataPaths.defaultRoot? s.vars with
  | none => .error "Failed to resolve application data directory"
  | some root =>
    match Settings.resolve d s.workingDirectory call.settings (DataPaths.ofRoot root).settings root
    with
    | .ok settings => .ok settings
    | .error e => .error e.message

/-- The services for a call. -/
def servicesOf (s : Surroundings σ) (call : Invocation) (settings : Settings) :
    Except EndpointFault (Services σ) :=
  Services.ofSettings settings
    { root := (DataPaths.ofRoot settings.dataRoot).store, workingDirectory := s.workingDirectory }
    (s.network settings.timeoutSeconds)
    (PreferredLocale.ofRun call.locale settings.locale s.vars) s.zone

/-- Carries a call out: settings first, then the log, then the services. -/
def execute (s : Surroundings σ) (call : Invocation) (d : Disk) (n : σ) : Outcome × Disk × σ :=
  match settingsOf s call d with
  | .error message => (.failed message, d, n)
  | .ok settings =>
    match openLog d s.workingDirectory (DataPaths.ofRoot settings.dataRoot).logs with
    | none => ({ status := .crash }, d, n)
    | some d =>
      match servicesOf s call settings with
      | .error e => (.failed (Services.faultMessage e), d, n)
      | .ok sv => perform sv s.clock call.command d n

/-- A whole run. -/
def run (s : Surroundings σ) (arguments : List String) (d : Disk) (n : σ) : Outcome × Disk × σ :=
  match CommandLine.parse arguments with
  | .error stop => (.ofStop stop, d, n)
  | .ok call => execute s call d n

end Program

end IngestViewer
