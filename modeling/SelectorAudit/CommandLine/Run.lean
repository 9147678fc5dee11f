import SelectorAudit.Analysis.Session
import SelectorAudit.CommandLine.Report
import SelectorAudit.CommandLine.Request
import SelectorAudit.Settings.Load

/-!
# Running a command line

The program as a function: from a file tree and the words of a command line to what is printed and
the exit code.
-/

namespace SelectorAudit.CommandLine

set_option autoImplicit false

open Analysis Report Settings
open Json (Value)

/-- An exception that nothing catches: its class and its text. -/
structure Uncaught where
  className : String
  message : String
  deriving DecidableEq, Repr

def Uncaught.line (failure : Uncaught) : String :=
  failure.className ++ ": " ++ failure.message

inductive Ending where
  | exit (code : Nat)
  | crash (failure : Uncaught)
  deriving DecidableEq, Repr

def Ending.code : Ending → Nat
  | .exit code => code
  | .crash _ => 1

/-- What the program does: its output, its end, and the template files that it did not find. -/
structure Transcript where
  stdout : String
  stderr : String
  ending : Ending
  missing : List String
  deriving DecidableEq, Repr

/-- What is raised where the stack is used up. -/
def Uncaught.ofOverflow (overflow : Json.Overflow) : Uncaught :=
  ⟨"RecursionError", overflow.message⟩

def Transcript.crashed (failure : Uncaught) : Transcript := ⟨"", "", .crash failure, []⟩

def exitClean : Nat := 0
def exitUnused : Nat := 1
def exitAborted : Nat := 2
def exitFailed : Nat := 1
def exitUsage : Nat := 2

def journalLines (verbose : Bool) (journal : Journal) : List String :=
  (journal.atLeast (if verbose then .debug else .warning)).map JournalLine.text

def missingFiles (records : List ErrorRecord) : List String :=
  (records.filter fun record => record.kind = .fileAccess).filterMap ErrorRecord.file

def additionMessage : Value → String
  | .text _ => "can only concatenate str (not \x22tuple\x22) to str"
  | value => "unsupported operand type(s) for +: '" ++ value.typeName ++ "' and 'tuple'"

/-- Adds patterns to the excluded ones; what is no list cannot be added to. -/
def withExcludes (options : Options) (excludes : List String) : Except Uncaught Options :=
  if excludes.isEmpty then .ok options
  else
    match options .excludePatterns with
    | .list patterns =>
        .ok (options.set .excludePatterns (.list (patterns ++ excludes.map Value.text)))
    | value => .error ⟨"TypeError", additionMessage value⟩

def withExtensions (options : Options) (name : OptionName) (extensions : List String) : Options :=
  if extensions.isEmpty then options else options.set name (textList extensions)

def mergedOptions (request : AnalyzeRequest) (loaded : Options) : Except Uncaught Options :=
  let typed := withExtensions
    (withExtensions loaded .includeFileTypes request.includeTypes)
    .componentFileTypes request.componentTypes
  let counted := match request.minFiles with
    | some count => typed.set .minFilesForAnalysis (.integer count)
    | none => typed
  withExcludes counted request.excludes

def loadedOptions (place : Place) (request : AnalyzeRequest) : Except LoadFault Options :=
  match request.configFile with
  | some path =>
      match place.tree.open? (Path.join place.workingDirectory (Path.tidy path)) with
      | .error fault => .error (.system fault (Path.tidy path))
      | .ok content => Options.ofBytes place.spare content
  | none => .ok Options.defaults

def resultCode (result : Result) : Nat :=
  if result.aborted then exitAborted
  else if result.unused.isEmpty then exitClean else exitUnused

def analyzeWith (place : Place) (verbose : Bool) (request : AnalyzeRequest) (options : Options) :
    Transcript :=
  let root := place.absolute request.root
  let outcome := (Session.new options).run Sink.empty (treeHost Markup.parseModule)
    Interruptions.none root place.tree
  let printed :=
    if request.json then (resultValue root outcome.result).indented ++ "\n"
    else if outcome.result.aborted then ""
    else unlines (findingLines root outcome.sink request.showErrors outcome.result)
  let complaints :=
    if !request.json && outcome.result.aborted then abortLines outcome.result else []
  { stdout := printed
    stderr := unlines (journalLines verbose outcome.journal ++ complaints)
    ending := .exit (resultCode outcome.result)
    missing := missingFiles outcome.result.errors.records }

/-- By how many levels a search for files may go deeper than the values in a file of options. -/
def searchLead : Nat := 4

def searchOverflows (place : Place) (request : AnalyzeRequest) (options : Options) : Bool :=
  match validate options with
  | .ok config =>
      place.spare + searchLead <
        Storage.searchDepth place.tree (place.absolute request.root) config.excludePatterns
  | .error _ => false

def analyzeTranscript (place : Place) (verbose : Bool) (request : AnalyzeRequest) : Transcript :=
  match loadedOptions place request with
  | .error (.exhausted overflow) => .crashed (.ofOverflow overflow)
  | .error fault =>
      ⟨"", "Configuration error: " ++ fault.message ++ "\n", .exit exitAborted, []⟩
  | .ok loaded =>
      match mergedOptions request loaded with
      | .error failure => .crashed failure
      | .ok options =>
          if searchOverflows place request options then .crashed (.ofOverflow .frame)
          else analyzeWith place verbose request options

def sourceAt (place : Place) (path : String) : Except Storage.SystemFault (List Char) :=
  (place.tree.open? (Path.join place.workingDirectory path)).map Storage.FileTree.textOf

/-- What is done with the text of the file that a path names. A file that was there when the command
line was checked and cannot be opened now is not reported as a failure. -/
def withSource (place : Place) (path : String) (use : List Char → Transcript) : Transcript :=
  match sourceAt place path with
  | .ok source => use source
  | .error fault => .crashed ⟨fault.className, fault.message path⟩

def warningLines (log : ErrorLog) : List String :=
  log.records.map fun record => "warning: " ++ record.summary

def selectorsTranscript (verbose : Bool) (path : String) (source : List Char) : Transcript :=
  let extraction := Stylesheet.extractSelectors source path
  let log := ErrorLog.fresh.addAll extraction.errors
  let shown := journalLines verbose extraction.journal
  match extraction.outcome with
  | .error rejection =>
      ⟨"", unlines (shown ++ ["Parse error: " ++ rejection.message]), .exit exitFailed, []⟩
  | .ok selectors =>
      { stdout := unlines (selectors.map (fun selector =>
          toString selector.line ++ ":" ++ toString selector.column ++ "  " ++ selector.text) ++
          [toString selectors.length ++ " selector(s)"])
        stderr := unlines (shown ++ warningLines log)
        ending := .exit exitClean
        missing := [] }

def namesTranscript (verbose : Bool) (used : List UsedName) (errors : List ErrorRecord)
    (journal : Journal) : Transcript :=
  let log := ErrorLog.fresh.addAll errors
  { stdout := unlines (Text.sortDistinct (used.map UsedName.name))
    stderr := unlines (journalLines verbose journal ++ warningLines log)
    ending := .exit exitClean
    missing := missingFiles log.records }

def elementTranscript (verbose : Bool) (file : String) (source : List Char) : Transcript :=
  let usage := Markup.elementUsage Markup.parseModule source file
  namesTranscript verbose usage.used usage.errors usage.journal

def decoratedTranscript (place : Place) (verbose : Bool) (file : String) (source : List Char) :
    Transcript :=
  let usage := Markup.decoratedUsage Markup.parseModule (treeHost Markup.parseModule).read
    Config.defaults.maxComponentBytes place.tree source file
  match usage.outcome with
  | .ok used => namesTranscript verbose used usage.errors usage.journal
  | .error message =>
      ⟨"", unlines (journalLines verbose usage.journal), .crash ⟨"ValueError", message⟩, []⟩

/-- Lists the names that a component uses. -/
def usageTranscript (place : Place) (verbose : Bool) (path : String) : Transcript :=
  let file := place.absolute path
  match Config.defaults.sourceKind path with
  | some .jsx => withSource place file (elementTranscript verbose file)
  | some .decorator => withSource place file (decoratedTranscript place verbose file)
  | _ =>
      ⟨"", "Unsupported component type: " ++ Path.extension path ++ "\n", .exit exitFailed, []⟩

/-- Runs the program. -/
def run (place : Place) (words : List String) : Transcript :=
  match invocation place words with
  | .inform text => ⟨text, "", .exit exitClean, []⟩
  | .instruct command => ⟨"", command.help, .exit exitUsage, []⟩
  | .refuse command fault => ⟨"", command.complaint fault, .exit exitUsage, []⟩
  | .perform verbose (.analyze request) => analyzeTranscript place verbose request
  | .perform verbose (.selectors path) =>
      withSource place path (selectorsTranscript verbose path)
  | .perform verbose (.usage path) => usageTranscript place verbose path

end SelectorAudit.CommandLine
