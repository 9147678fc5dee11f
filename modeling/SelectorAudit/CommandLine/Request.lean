import SelectorAudit.CommandLine.Arguments
import SelectorAudit.Number.Integer
import SelectorAudit.Storage.Tree

/-!
# Requests

What the program can be asked to do, and how the words of a command line become a request. Paths and
numbers are checked here, in the order in which they are given: options first, then the argument of
the command.
-/

namespace SelectorAudit.CommandLine

set_option autoImplicit false

open Storage (FileTree)

/-- Where paths are looked up: relative ones start at the working directory. -/
structure Place where
  tree : FileTree
  workingDirectory : String
  /-- How deep the values in a file of options may be nested with room left on the stack to report a
  fault. -/
  spare : Nat

def Place.absolute (place : Place) (path : String) : String :=
  Path.resolve place.workingDirectory path

def Place.find (place : Place) (path : String) : Except Storage.SystemFault Storage.Entry :=
  if path.isEmpty then .error .noEntry
  else place.tree.find (Path.join place.workingDirectory path)

structure AnalyzeRequest where
  root : String
  configFile : Option String
  includeTypes : List String
  componentTypes : List String
  excludes : List String
  minFiles : Option Int
  json : Bool
  showErrors : Bool
  deriving DecidableEq, Repr

inductive Request where
  | analyze (request : AnalyzeRequest)
  | selectors (path : String)
  | usage (path : String)
  deriving DecidableEq, Repr

structure Command where
  words : String
  shape : String
  description : List String

def programName : String := "deadcss"

def version : String := "0.1.0"

def program : Command where
  words := programName
  shape := "[OPTIONS] COMMAND [ARGS]..."
  description := [
    "  deadcss - find CSS selectors no component references.",
    "",
    "Options:",
    "  --version      Show the version and exit.",
    "  -v, --verbose  Log per-file progress",
    "  --help         Show this message and exit.",
    "",
    "Commands:",
    "  analyze    Find CSS class and id selectors that no component under ROOT...",
    "  selectors  List the class and id selectors declared in STYLESHEET.",
    "  usage      List the identifiers COMPONENT's markup uses."]

def analyzeCommand : Command where
  words := programName ++ " analyze"
  shape := "[OPTIONS] ROOT"
  description := [
    "  Find CSS class and id selectors that no component under ROOT uses.",
    "",
    "  Exits with code 0 when every selector is used, 1 when unused selectors were",
    "  found, and 2 when the analysis was aborted.",
    "",
    "Options:",
    "  --config FILE          JSON file with analysis options",
    "  --include-type TEXT    Stylesheet extension (repeatable)",
    "  --component-type TEXT  Component extension (repeatable)",
    "  --exclude TEXT         Extra exclusion glob (repeatable)",
    "  --min-files INTEGER    Skip the run below this many stylesheets",
    "  --json                 Print a machine-readable report",
    "  --show-errors          List recorded errors after the summary",
    "  --help                 Show this message and exit."]

def selectorsCommand : Command where
  words := programName ++ " selectors"
  shape := "[OPTIONS] STYLESHEET"
  description := [
    "  List the class and id selectors declared in STYLESHEET.",
    "",
    "Options:",
    "  --help  Show this message and exit."]

def usageCommand : Command where
  words := programName ++ " usage"
  shape := "[OPTIONS] COMPONENT"
  description := [
    "  List the identifiers COMPONENT's markup uses.",
    "",
    "Options:",
    "  --help  Show this message and exit."]

def Command.usageLine (command : Command) : String :=
  "Usage: " ++ command.words ++ " " ++ command.shape

def Command.help (command : Command) : String :=
  "\n".intercalate (command.usageLine :: "" :: command.description) ++ "\n"

def Command.complaint (command : Command) (fault : UsageFault) : String :=
  let context :=
    if fault.showsUsage then
      command.usageLine ++ "\nTry '" ++ command.words ++ " --help' for help.\n\n"
    else ""
  context ++ "Error: " ++ fault.message ++ "\n"

/-- What a command line amounts to. -/
inductive Invocation where
  | inform (text : String)
  | instruct (command : Command)
  | refuse (command : Command) (fault : UsageFault)
  | perform (verbose : Bool) (request : Request)

inductive ProgramOption where
  | version
  | verbose
  | help
  deriving DecidableEq, Repr

def programOptions : List (OptionSpec ProgramOption) :=
  [⟨.version, "--version", none, false⟩, ⟨.verbose, "--verbose", some 'v', false⟩,
    ⟨.help, "--help", none, false⟩]

inductive AnalyzeOption where
  | config
  | includeType
  | componentType
  | exclude
  | minFiles
  | json
  | showErrors
  | help
  deriving DecidableEq, Repr

def analyzeOptions : List (OptionSpec AnalyzeOption) :=
  [⟨.config, "--config", none, true⟩, ⟨.includeType, "--include-type", none, true⟩,
    ⟨.componentType, "--component-type", none, true⟩, ⟨.exclude, "--exclude", none, true⟩,
    ⟨.minFiles, "--min-files", none, true⟩, ⟨.json, "--json", none, false⟩,
    ⟨.showErrors, "--show-errors", none, false⟩, ⟨.help, "--help", none, false⟩]

inductive FileOption where
  | help
  deriving DecidableEq, Repr

def fileOptions : List (OptionSpec FileOption) :=
  [⟨.help, "--help", none, false⟩]

section

variable {Id : Type} [DecidableEq Id]

def Parsed.has (parsed : Parsed Id) (id : Id) : Bool :=
  parsed.given.any fun entry => entry.1 = id

def Parsed.values (parsed : Parsed Id) (id : Id) : List String :=
  (parsed.given.filter fun entry => entry.1 = id).map Prod.snd

def Parsed.value? (parsed : Parsed Id) (id : Id) : Option String :=
  (parsed.values id).getLast?

end

def checkFile (place : Place) (parameter path : String) : Except UsageFault Unit :=
  match place.find path with
  | .error _ =>
      .error (.invalidValue parameter ("File " ++ Text.quoted path ++ " does not exist."))
  | .ok entry =>
      if entry.isDirectory then
        .error (.invalidValue parameter ("File " ++ Text.quoted path ++ " is a directory."))
      else .ok ()

def checkDirectory (place : Place) (parameter path : String) : Except UsageFault Unit :=
  match place.find path with
  | .error _ =>
      .error (.invalidValue parameter ("Directory " ++ Text.quoted path ++ " does not exist."))
  | .ok entry =>
      if entry.isDirectory then .ok ()
      else .error (.invalidValue parameter ("Directory " ++ Text.quoted path ++ " is a file."))

def checkAnalyzeOption (place : Place) (parsed : Parsed AnalyzeOption) (id : AnalyzeOption) :
    Except UsageFault Unit :=
  match id, parsed.value? id with
  | .config, some path => checkFile place "--config" path
  | .minFiles, some text =>
      match Number.integer? text.toList with
      | some _ => .ok ()
      | none =>
          .error (.invalidValue "--min-files" (Text.quoted text ++ " is not a valid integer."))
  | _, _ => .ok ()

/-- The only argument of a command; it is checked before further ones are complained about. -/
def soleArgument (name : String) (check : String → Except UsageFault Unit) :
    List String → Except UsageFault String
  | [] => .error (.missingArgument name)
  | argument :: extra => do
      check argument
      if extra.isEmpty then .ok argument else .error (.extraArguments extra)

def analyzeRequest (place : Place) (parsed : Parsed AnalyzeOption) :
    Except UsageFault AnalyzeRequest := do
  parsed.given.forM fun entry => checkAnalyzeOption place parsed entry.1
  let root ← soleArgument "ROOT" (checkDirectory place "ROOT") parsed.positional
  return {
    root := root
    configFile := parsed.value? .config
    includeTypes := parsed.values .includeType
    componentTypes := parsed.values .componentType
    excludes := parsed.values .exclude
    minFiles := (parsed.value? .minFiles).bind fun text => Number.integer? text.toList
    json := parsed.has .json
    showErrors := parsed.has .showErrors
  }

def invocationOf (command : Command) (verbose : Bool) :
    Except UsageFault (Option Request) → Invocation
  | .error fault => .refuse command fault
  | .ok none => .inform command.help
  | .ok (some request) => .perform verbose request

def fileRequest (place : Place) (name : String) (request : String → Request)
    (words : List String) : Except UsageFault (Option Request) := do
  let parsed ← parseWords fileOptions true words
  if parsed.has .help then return none
  else return some (request (← soleArgument name (checkFile place name) parsed.positional))

def informText? (given : List (ProgramOption × String)) : Option String :=
  match given.find? fun entry => entry.1 = .version || entry.1 = .help with
  | some (.version, _) => some (programName ++ ", version " ++ version ++ "\n")
  | some _ => some program.help
  | none => none

/-- What is made of a word that names no command: options are taken as those of the program. -/
def unknownInvocation (name : String) (words : List String) : Invocation :=
  match parseWords programOptions false (name :: words) with
  | .error fault => .refuse program fault
  | .ok parsed =>
      match informText? parsed.given with
      | some text => .inform text
      | none => .refuse program (.noSuchCommand name)

def commandInvocation (place : Place) (verbose : Bool) (name : String) (words : List String) :
    Invocation :=
  match name with
  | "analyze" =>
      invocationOf analyzeCommand verbose do
        let parsed ← parseWords analyzeOptions true words
        if parsed.has .help then return none
        else return some (.analyze (← analyzeRequest place parsed))
  | "selectors" =>
      invocationOf selectorsCommand verbose (fileRequest place "STYLESHEET" .selectors words)
  | "usage" =>
      invocationOf usageCommand verbose (fileRequest place "COMPONENT" .usage words)
  | _ => unknownInvocation name words

/-- The invocation that the words of a command line make up. -/
def invocation (place : Place) (words : List String) : Invocation :=
  if words.isEmpty then .instruct program
  else
    match parseWords programOptions false words with
    | .error fault => .refuse program fault
    | .ok parsed =>
        match informText? parsed.given, parsed.positional with
        | some text, _ => .inform text
        | none, [] => .refuse program .missingCommand
        | none, name :: rest => commandInvocation place (parsed.has .verbose) name rest

end SelectorAudit.CommandLine
