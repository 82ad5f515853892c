import IngestViewer.CommandLine

namespace IngestViewer.HelpText

def about : String :=
  "Look up storage-service ingests and explain what happened to them"

def version : String :=
  "ingest-inspector 0.1.0"

def settingsHelp : String :=
  "TOML config file (default: <app-data>/config.toml when present)"

def localeHelp : String :=
  "Locale used for dates, e.g. en-US or de-DE (default: system locale)"

/-- The lines that explain the program. -/
def programLines : List String := [
  about,
  "",
  "Usage: ingest-inspector [OPTIONS] <COMMAND>",
  "",
  "Commands:",
  "  lookup  Look an ingest up and show its lifecycle",
  "  recent  List recently inspected ingests",
  "  help    Print this message or the help of the given subcommand(s)",
  "",
  "Options:",
  "      --config <PATH>  " ++ settingsHelp,
  "      --locale <TAG>   " ++ localeHelp,
  "  -h, --help           Print help",
  "  -V, --version        Print version"]

/-- The lines that explain a command. -/
def commandLines : CommandName → List String
  | .lookup => [
    "Look an ingest up and show its lifecycle",
    "",
    "Usage: ingest-inspector lookup [OPTIONS] <INGEST_ID>",
    "",
    "Arguments:",
    "  <INGEST_ID>  Ingest identifier",
    "",
    "Options:",
    "      --config <PATH>      " ++ settingsHelp,
    "      --env <ENVIRONMENT>  Environment to query: auto, staging or production [default: auto]",
    "      --json               Print the result as JSON instead of text",
    "      --locale <TAG>       " ++ localeHelp,
    "  -h, --help               Print help"]
  | .recent => [
    "List recently inspected ingests",
    "",
    "Usage: ingest-inspector recent [OPTIONS]",
    "",
    "Options:",
    "      --config <PATH>  " ++ settingsHelp,
    "      --locale <TAG>   " ++ localeHelp,
    "  -h, --help           Print help"]
  | .help => [
    "Print this message or the help of the given subcommand(s)",
    "",
    "Usage: ingest-inspector help [COMMAND]...",
    "",
    "Arguments:",
    "  [COMMAND]...  Print help for the subcommand(s)"]

def lines : Option CommandName → List String
  | none => programLines
  | some name => commandLines name

/-- What is wrong with a command line. -/
def complaint : UsageStop → String
  | .helpWanted _ => "help was asked for"
  | .versionWanted => "the version was asked for"
  | .nothingGiven => "nothing to do"
  | .commandMissing => "a command is missing"
  | .commandUnknown => "there is no such command"
  | .argumentMissing => "the ID of an ingest is missing"
  | .argumentUnknown => "there is no such argument"
  | .argumentRepeated => "an argument is given twice"
  | .valueMissing => "an argument has no value"
  | .valueRefused => "an argument has a value that it cannot have"
  | .valueUnwanted => "an argument has a value but takes none"

end IngestViewer.HelpText
