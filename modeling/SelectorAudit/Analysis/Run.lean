import SelectorAudit.Analysis.Extractor
import SelectorAudit.Analysis.Result
import SelectorAudit.Event.Basic
import SelectorAudit.Settings.Config

/-!
# Runs

One complete analysis of a project. Files are read one at a time: the style sheets, then the modules
with elements, then the decorated components. What fails in one file is recorded and the run goes on;
an invalid configuration, a failed discovery or a breakdown aborts the run.
-/

namespace SelectorAudit.Analysis

set_option autoImplicit false

open Report Settings

/-- Where a run gets its files and their syntax trees from. Every request may change the state. -/
structure Host (State : Type) where
  /-- The files below a root with some extensions that match none of some patterns, or why they
  cannot be listed. -/
  discover : State → String → List String → List String → Except String (List String) × State
  read : Storage.Reader State
  parse : Markup.ModuleParser

/-- What a run has left behind so far. -/
structure Progress (State : Type) where
  state : State
  errors : ErrorLog
  counts : ScanCounts
  events : List Event
  journal : Journal

namespace Progress

variable {State : Type}

def start (state : State) (event : Event) : Progress State :=
  ⟨state, ErrorLog.fresh, ScanCounts.zero, [event], []⟩

def log (progress : Progress State) (line : JournalLine) : Progress State :=
  { progress with journal := progress.journal ++ [line] }

def record (progress : Progress State) (error : ErrorRecord) : Progress State :=
  { progress with errors := progress.errors.add error }

def emit (progress : Progress State) (event : Event) : Progress State :=
  { progress with events := progress.events ++ [event] }

def finishFile (progress : Progress State) (path : String) (kind : SourceKind)
    (outcome : FileOutcome) (records : Nat) : Progress State :=
  { progress with
    counts := progress.counts.count kind outcome
    events := progress.events ++ [.fileAnalyzed path kind (outcome != .failed) records] }

def absorb {Item : Type} (progress : Progress State) (extracted : Extracted State Item) :
    Progress State :=
  { progress with
    state := extracted.state
    errors := progress.errors.addAll extracted.errors
    journal := progress.journal ++ extracted.journal }

end Progress

/-- The outcome of a part of a run: what it found, or the message of a breakdown. -/
structure Stage (State Item : Type) where
  outcome : Except String (List Item)
  progress : Progress State

def parseErrorKind : SourceKind → ErrorKind
  | .stylesheet => .stylesheetParse
  | .jsx => .jsxParse
  | .decorator => .templateParse

/-- How the files of one kind are treated. -/
structure Treatment (State Item : Type) where
  kind : SourceKind
  limit : Int
  extract : Extractor State Item

section

variable {State Item : Type}

def runLine (level : Level) (message : String) : JournalLine := ⟨level, .run, message⟩

def accessError (path : String) (fault : Storage.AccessFault) : ErrorRecord :=
  ⟨.fileAccess, fault.message, some path, some fault.reason.word, true⟩

def failReading (treatment : Treatment State Item) (path : String) (fault : Storage.AccessFault)
    (progress : Progress State) : Progress State :=
  ((progress.log (runLine .warning ("Cannot read " ++ path ++ ": " ++ fault.message))).record
    (accessError path fault)).finishFile path treatment.kind .failed 0

/-- Records that a file is given up. -/
def failExtraction (treatment : Treatment State Item) (path message : String)
    (details : Option String) (progress : Progress State) : Progress State :=
  ((progress.log (runLine .warning ("Failed to analyse " ++ path ++ ": " ++ message))).record
    ⟨parseErrorKind treatment.kind, message, some path, details, true⟩).finishFile
      path treatment.kind .failed 0

def succeed (treatment : Treatment State Item) (path : String) (records : Nat)
    (progress : Progress State) : Progress State :=
  (progress.log (runLine .debug (treatment.kind.word ++ ": " ++ toString records ++
    " records from " ++ path))).finishFile path treatment.kind .succeeded records

def extractFrom (treatment : Treatment State Item) (path : String) (source : List Char)
    (progress : Progress State) : Stage State Item :=
  let extracted := treatment.extract progress.state source path
  let after := progress.absorb extracted
  match extracted.outcome with
  | .ok items => ⟨.ok items, succeed treatment path items.length after⟩
  | .error (.rejected message details) =>
      ⟨.ok [], failExtraction treatment path message details after⟩
  | .error (.breakdown message) => ⟨.error message, after⟩

/-- Reads one file; a blank one is skipped. -/
def processFile (read : Storage.Reader State) (treatment : Treatment State Item)
    (progress : Progress State) (path : String) : Stage State Item :=
  let reading := read progress.state path treatment.limit
  let after := { progress with state := reading.2 }
  match reading.1 with
  | .fault fault => ⟨.ok [], failReading treatment path fault after⟩
  | .breakdown message => ⟨.error message, after⟩
  | .text source =>
      if Text.isAllBlank source then
        ⟨.ok [], after.finishFile path treatment.kind .skipped 0⟩
      else extractFrom treatment path source after

def processFiles (read : Storage.Reader State) (treatment : Treatment State Item)
    (progress : Progress State) : List String → Stage State Item
  | [] => ⟨.ok [], progress⟩
  | path :: rest =>
      let first := processFile read treatment progress path
      match first.outcome with
      | .error message => ⟨.error message, first.progress⟩
      | .ok items =>
          let later := processFiles read treatment first.progress rest
          ⟨later.outcome.map fun more => items ++ more, later.progress⟩

end

/-- What a run gives: its result, and what it left behind. -/
structure Outcome (State : Type) where
  result : Result
  events : List Event
  journal : Journal
  state : State

section

variable {State : Type}

/-- The end of a run without findings. -/
def conclude (progress : Progress State) (root : String) (generation : Nat) (status : Status)
    (skipReason : Option String) : Outcome State :=
  { result :=
      { root := root
        status := status
        selectors := []
        used := []
        unused := []
        diagnostics := []
        counts := progress.counts
        errors := progress.errors
        skipReason := skipReason
        generation := generation
        published := false }
    events := progress.events
    journal := progress.journal
    state := progress.state }

def abort (progress : Progress State) (root : String) (generation : Nat) (kind : ErrorKind)
    (message : String) (details : Option String) : Outcome State :=
  let logged := progress.log
    (runLine .error ("Analysis of " ++ root ++ " aborted: " ++ message))
  let recorded := logged.record ⟨kind, message, none, details, false⟩
  conclude (recorded.emit (.aborted root message)) root generation .aborted none

def breakdownMessage : String := "Critical error during CSS analysis"

/-- The end of a run that has broken down. -/
def abortBreakdown (progress : Progress State) (root : String) (generation : Nat)
    (message : String) : Outcome State :=
  abort (progress.log (runLine .error (breakdownMessage ++ " of " ++ root))) root generation
    .general breakdownMessage (some message)

/-- The end of a run with too few style sheets. -/
def skip (progress : Progress State) (root : String) (generation found minimum : Nat) :
    Outcome State :=
  let reason := "Found " ++ toString found ++ " stylesheet(s), minimum required: " ++
    toString minimum
  let logged := progress.log
    (runLine .info ("Skipping analysis of " ++ root ++ ": " ++ reason))
  conclude (logged.emit (.skipped root reason)) root generation .skipped (some reason)

/-- Notes the kinds of files in which some failed. -/
def noteFailures (progress : Progress State) : Progress State :=
  { progress with
    journal := progress.journal ++ (SourceKind.all.filter fun kind =>
      0 < (progress.counts.get kind).failed).map fun kind =>
        runLine .warning (kind.word ++ " analysis: " ++
          toString (progress.counts.get kind).succeeded ++ " files processed, " ++
          toString (progress.counts.get kind).failed ++ " files failed") }

/-- The end of a run that has read all files. -/
def complete (progress : Progress State) (root : String) (generation : Nat)
    (selectors : List Selector) (used : List UsedName) : Outcome State :=
  let unused := findUnused selectors used
  let logged := (noteFailures progress).log
    (runLine .info ("Analysis complete: " ++ toString unused.length ++
      " unused selectors out of " ++ toString selectors.length))
  let announced := logged.emit (.completed root selectors.length unused.length)
  { result :=
      { root := root
        status := .completed
        selectors := selectors
        used := used
        unused := unused
        diagnostics := project unused announced.counts
        counts := announced.counts
        errors := announced.errors
        skipReason := none
        generation := generation
        published := false }
    events := announced.events
    journal := announced.journal
    state := announced.state }

/-- The files that a run is to read, by kind. -/
structure Workload where
  stylesheets : List String
  elementModules : List String
  decoratedModules : List String
  unhandled : List String
  deriving DecidableEq, Repr

/-- Sorts the discovered files by what they are. -/
def workload (config : Config) (stylesheets components : List String) : Workload :=
  { stylesheets := stylesheets
    elementModules := components.filter fun path => config.sourceKind path = some .jsx
    decoratedModules := components.filter fun path => config.sourceKind path = some .decorator
    unhandled := components.filter fun path => config.sourceKind path = none }

/-- Notes what there is to read. -/
def noteWorkload (progress : Progress State) (work : Workload) : Progress State :=
  { progress with
    journal := progress.journal ++ work.unhandled.map (fun path =>
      runLine .debug ("No component dialect handles " ++ path)) ++
      [runLine .info ("Found " ++ toString work.stylesheets.length ++ " stylesheets, " ++
        toString work.elementModules.length ++ " JSX files, " ++
        toString work.decoratedModules.length ++ " decorator files")] }

def stylesheetTreatment (config : Config) : Treatment State Selector :=
  ⟨.stylesheet, config.maxStylesheetBytes, stylesheetExtractor⟩

def elementTreatment (parse : Markup.ModuleParser) (config : Config) : Treatment State UsedName :=
  ⟨.jsx, config.maxComponentBytes, elementExtractor parse⟩

def decoratorTreatment (parse : Markup.ModuleParser) (read : Storage.Reader State)
    (config : Config) : Treatment State UsedName :=
  ⟨.decorator, config.maxComponentBytes, decoratorExtractor parse read config.maxComponentBytes⟩

/-- Reads all files and compares what they declare with what they use. -/
def analyze (parse : Markup.ModuleParser) (read : Storage.Reader State) (config : Config)
    (work : Workload) (root : String) (generation : Nat) (progress : Progress State) :
    Outcome State :=
  let sheets := processFiles read (stylesheetTreatment config) (noteWorkload progress work)
    work.stylesheets
  match sheets.outcome with
  | .error message => abortBreakdown sheets.progress root generation message
  | .ok selectors =>
      let elements := processFiles read (elementTreatment parse config)
        (sheets.progress.log
          (runLine .info ("Extracted " ++ toString selectors.length ++ " selectors")))
        work.elementModules
      match elements.outcome with
      | .error message => abortBreakdown elements.progress root generation message
      | .ok elementNames =>
          let decorated := processFiles read (decoratorTreatment parse read config)
            elements.progress work.decoratedModules
          match decorated.outcome with
          | .error message => abortBreakdown decorated.progress root generation message
          | .ok decoratedNames =>
              let used := elementNames ++ decoratedNames
              complete (decorated.progress.log
                (runLine .info ("Found " ++ toString used.length ++ " used identifiers")))
                root generation selectors used

def discoveryMessage : String := "Failed to scan workspace files"

/-- Runs one analysis. -/
def run (host : Host State) (options : Options) (root : String) (generation : Nat)
    (state : State) : Outcome State :=
  let start := Progress.start state (.started root generation)
  match validate options with
  | .error fault => abort start root generation .configuration fault.message none
  | .ok config =>
      match host.discover state root config.includeFileTypes config.excludePatterns with
      | (.error message, after) =>
          abort { start with state := after } root generation .fileAccess discoveryMessage
            (some message)
      | (.ok stylesheets, between) =>
          match host.discover between root config.componentFileTypes config.excludePatterns with
          | (.error message, after) =>
              abort { start with state := after } root generation .fileAccess discoveryMessage
                (some message)
          | (.ok components, after) =>
              if stylesheets.length < config.minFilesForAnalysis then
                skip { start with state := after } root generation stylesheets.length
                  config.minFilesForAnalysis
              else
                analyze host.parse host.read config (workload config stylesheets components) root
                  generation { start with state := after }

end

end SelectorAudit.Analysis
