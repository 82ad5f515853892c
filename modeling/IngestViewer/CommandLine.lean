import IngestViewer.Environment
import IngestViewer.IngestRecord

namespace IngestViewer

/-- What the program is asked to do. -/
inductive Command where
  | lookup (id : IngestId) (selector : Selector) (json : Bool)
  | recent
deriving DecidableEq, Repr

/-- A command line that can be carried out. -/
structure Invocation where
  settings : Option String
  locale : Option String
  command : Command
deriving DecidableEq, Repr

/-- A word that stands for a command. -/
inductive CommandName where
  | lookup
  | recent
  | help
deriving DecidableEq, Repr

def CommandName.ofWord? : String → Option CommandName
  | "lookup" => some lookup
  | "recent" => some recent
  | "help" => some help
  | _ => none

/-- Why a command line is not carried out. -/
inductive UsageStop where
  | helpWanted (topic : Option CommandName)
  | versionWanted
  | nothingGiven
  | commandMissing
  | commandUnknown
  | argumentMissing
  | argumentUnknown
  | argumentRepeated
  | valueMissing
  | valueRefused
  | valueUnwanted
deriving DecidableEq, Repr

namespace CommandLine

/-- An argument that has a value. -/
inductive Valued where
  | settings
  | locale
  | selector
  | id
deriving DecidableEq, Repr

/-- An argument that has none. -/
inductive Flag where
  | json
  | help
  | version
deriving DecidableEq, Repr

/-- What a name with two hyphens in front stands for. The first argument is the command whose words
are read; before any command it is absent. -/
def named? : Option CommandName → String → Option (Valued ⊕ Flag)
  | _, "config" => some (.inl .settings)
  | _, "locale" => some (.inl .locale)
  | some .lookup, "env" => some (.inl .selector)
  | some .lookup, "json" => some (.inr .json)
  | _, "help" => some (.inr .help)
  | none, "version" => some (.inr .version)
  | _, _ => none

/-- What a letter with one hyphen in front stands for. -/
def lettered? : Option CommandName → Char → Option Flag
  | _, 'h' => some .help
  | none, 'V' => some .version
  | _, _ => none

/-- How a word looks. -/
inductive Shape where
  | divider
  | named (name : String) (value : Option String)
  | lettered (first : Char)
  | plain
deriving DecidableEq, Repr

def shapeOf (word : String) : Shape :=
  match word.toList with
  | ['-', '-'] => .divider
  | '-' :: '-' :: cs =>
    .named (String.ofList (cs.takeWhile (· ≠ '=')))
      (match cs.dropWhile (· ≠ '=') with
        | [] => none
        | _ :: value => some (String.ofList value))
  | '-' :: c :: _ => .lettered c
  | _ => .plain

/-- What has been given so far. -/
structure Given where
  settings : Option String := none
  locale : Option String := none
  selector : Option Selector := none
  id : Option IngestId := none
  json : Bool := false
deriving DecidableEq, Repr

namespace Given

def isEmpty (g : Given) : Bool := g == {}

/-- Whether an argument has been given. -/
def has (g : Given) : Valued → Bool
  | .settings => g.settings.isSome
  | .locale => g.locale.isSome
  | .selector => g.selector.isSome
  | .id => g.id.isSome

/-- Adds an argument. None is given twice. -/
def add (g : Given) (a : Valued) (value : String) : Except UsageStop Given :=
  if g.has a then .error .argumentRepeated
  else
    match a with
    | .settings =>
      if value = "" then .error .valueMissing else .ok { g with settings := some value }
    | .locale => .ok { g with locale := some value }
    | .selector =>
      match Selector.ofText value with
      | .ok s => .ok { g with selector := some s }
      | .error _ => .error .valueRefused
    | .id =>
      match IngestId.ofInput? value with
      | some id => .ok { g with id := some id }
      | none => .error .valueRefused

end Given

/-- How far the words of a command, or those before any command, have been read. An argument is not
looked at before the next one begins: until then it is pending, with its value if there is one.
Behind a divider all words are plain. -/
structure Reading where
  command : Option CommandName
  given : Given := {}
  pending : Option (Valued × Option String) := none
  divided : Bool := false

namespace Reading

/-- Whether the next word may be the value of an option. -/
def awaitsValue (r : Reading) : Bool :=
  match r.pending with
  | some (_, none) => !r.divided
  | _ => false

/-- Whether the next word may be a command. -/
def awaitsCommand (r : Reading) : Bool :=
  r.command.isNone && !r.divided && !r.awaitsValue

/-- Looks at the pending argument. -/
def settle (r : Reading) : Except UsageStop Reading :=
  match r.pending with
  | none => .ok r
  | some (_, none) => .error .valueMissing
  | some (a, some value) => do return { r with given := ← r.given.add a value, pending := none }

/-- Begins an argument that may have its value with it. -/
def begin (r : Reading) (a : Valued) (value : Option String) : Except UsageStop Reading := do
  let r ← r.settle
  let r := { r with pending := some (a, value) }
  if value.isSome then r.settle else return r

def raise (r : Reading) (f : Flag) : Except UsageStop Reading := do
  let r ← r.settle
  match f with
  | .json =>
    if r.given.json then .error .argumentRepeated
    else return { r with given := { r.given with json := true } }
  | .help => .error (.helpWanted r.command)
  | .version => .error .versionWanted

/-- Whether a plain word is the id of an ingest. -/
def awaitsId (r : Reading) : Bool :=
  r.command == some .lookup && !r.given.has .id && !r.pending.any (·.1 == .id)

/-- Takes a word that is neither an option nor the value of one. -/
def plain (r : Reading) (word : String) : Except UsageStop Reading :=
  if r.awaitsId then do return { (← r.settle) with pending := some (.id, some word) }
  else if r.command.isSome || (r.divided && (CommandName.ofWord? word).isSome) then
    .error .argumentUnknown
  else .error .commandUnknown

/-- Takes a word that is no command. -/
def next (r : Reading) (word : String) : Except UsageStop Reading :=
  if r.divided then r.plain word
  else
    match shapeOf word with
    | .divider => .ok { r with divided := true }
    | .named name value =>
      match named? r.command name with
      | some (.inl a) => r.begin a value
      | some (.inr f) => if value.isSome then .error .valueUnwanted else r.raise f
      | none => .error .argumentUnknown
    | .lettered c =>
      match lettered? r.command c with
      | some f => r.raise f
      | none => .error .argumentUnknown
    | .plain =>
      match r.pending with
      | some (a, none) => .ok { r with pending := some (a, some word) }
      | _ => r.plain word

end Reading

/-- Reads the words behind a command. -/
def readArguments : Reading → List String → Except UsageStop Given
  | r, [] => return (← r.settle).given
  | r, word :: words => do readArguments (← r.next word) words

/-- The command that its arguments make. -/
def commandOf (name : CommandName) (g : Given) : Except UsageStop Command :=
  match name, g.id with
  | .lookup, some id => .ok (.lookup id (g.selector.getD .auto) g.json)
  | .lookup, none => .error .argumentMissing
  | .recent, _ => .ok .recent
  | .help, _ => .error (.helpWanted none)

/-- What asking for help leads to: the words name the command to be explained. -/
def helpStop : List String → UsageStop
  | [] => .helpWanted none
  | [word] =>
    match CommandName.ofWord? word with
    | some name => .helpWanted (some name)
    | none => .commandUnknown
  | _ => .commandUnknown

/-- Reads the words of a command line. An option that stands on both sides of the command has the
value behind it. -/
def read : Reading → List String → Except UsageStop Invocation
  | r, [] => do
    let r ← r.settle
    .error (if r.given.isEmpty then .nothingGiven else .commandMissing)
  | r, word :: words =>
    match if r.awaitsCommand then CommandName.ofWord? word else none with
    | some .help => .error (helpStop words)
    | some name => do
      let behind ← readArguments { command := some name } words
      let command ← commandOf name behind
      let front := (← r.settle).given
      return ⟨behind.settings.or front.settings, behind.locale.or front.locale, command⟩
    | none => do read (← r.next word) words

/-- Reads a command line. -/
def parse (words : List String) : Except UsageStop Invocation :=
  read { command := none } words

end CommandLine

end IngestViewer
