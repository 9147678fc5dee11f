import SelectorAudit.Analysis.Run

/-!
# What the parts of a run add to it

A part of a run never looks at the log, the tallies or the events that it finds; it only adds to
them. What it adds is collected here in a report, which depends on nothing but the host's state. A
file adds one of five reports; the reports of several files are put together one after the other, up
to a breakdown. The whole of a run is then told by how it ends and by the report it ends with.
-/

namespace SelectorAudit.Analysis

set_option autoImplicit false

open Report Settings

structure FileNote where
  path : String
  kind : SourceKind
  outcome : FileOutcome
  records : Nat

def FileNote.event (note : FileNote) : Event :=
  .fileAnalyzed note.path note.kind (note.outcome != .failed) note.records

def tallied (counts : ScanCounts) (notes : List FileNote) : ScanCounts :=
  notes.foldl (fun counts note => counts.count note.kind note.outcome) counts

structure PartReport (State Found : Type) where
  outcome : Except String Found
  errors : List ErrorRecord
  notes : List FileNote
  journal : Journal
  state : State

namespace PartReport

variable {State Found Later : Type}

/-- The report of a part that does nothing. -/
def idle (found : Found) (state : State) : PartReport State Found :=
  ⟨.ok found, [], [], [], state⟩

def andThen (first : PartReport State Found) (later : Found → State → PartReport State Later) :
    PartReport State Later :=
  match first.outcome with
  | .error message => ⟨.error message, first.errors, first.notes, first.journal, first.state⟩
  | .ok found =>
      let next := later found first.state
      ⟨next.outcome, first.errors ++ next.errors, first.notes ++ next.notes,
        first.journal ++ next.journal, next.state⟩

def map (report : PartReport State Found) (change : Found → Later) : PartReport State Later :=
  { report with outcome := report.outcome.map change }

def onto (report : PartReport State Found) (progress : Progress State) : Progress State :=
  { state := report.state
    errors := progress.errors.addAll report.errors
    counts := tallied progress.counts report.notes
    events := progress.events ++ report.notes.map FileNote.event
    journal := progress.journal ++ report.journal }

@[simp] theorem onto_state (report : PartReport State Found) (progress : Progress State) :
    (report.onto progress).state = report.state := rfl

theorem onto_append (first : PartReport State Found) (next : PartReport State Later)
    (progress : Progress State) :
    next.onto (first.onto progress) =
      { state := next.state
        errors := progress.errors.addAll (first.errors ++ next.errors)
        counts := tallied progress.counts (first.notes ++ next.notes)
        events := progress.events ++ (first.notes ++ next.notes).map FileNote.event
        journal := progress.journal ++ (first.journal ++ next.journal) } := by
  simp [onto, ErrorLog.addAll, tallied, List.foldl_append]

def stage {Item : Type} (report : PartReport State (List Item)) (progress : Progress State) :
    Stage State Item :=
  ⟨report.outcome, report.onto progress⟩

end PartReport

/-! Files. -/

section

variable {State Item : Type}

def extractionError (kind : SourceKind) (path message : String) (details : Option String) :
    ErrorRecord :=
  ⟨parseErrorKind kind, message, some path, details, true⟩

def extractionReport (kind : SourceKind) (path : String) (extracted : Extracted State Item) :
    PartReport State (List Item) :=
  match extracted.outcome with
  | .ok items =>
      ⟨.ok items, extracted.errors, [⟨path, kind, .succeeded, items.length⟩],
        extracted.journal ++ [runLine .debug (kind.word ++ ": " ++ toString items.length ++
          " records from " ++ path)], extracted.state⟩
  | .error (.rejected message details) =>
      ⟨.ok [], extracted.errors ++ [extractionError kind path message details],
        [⟨path, kind, .failed, 0⟩],
        extracted.journal ++ [runLine .warning ("Failed to analyse " ++ path ++ ": " ++ message)],
        extracted.state⟩
  | .error (.breakdown message) =>
      ⟨.error message, extracted.errors, [], extracted.journal, extracted.state⟩

def fileReport (read : Storage.Reader State) (treatment : Treatment State Item) (state : State)
    (path : String) : PartReport State (List Item) :=
  let reading := read state path treatment.limit
  match reading.1 with
  | .fault fault =>
      ⟨.ok [], [accessError path fault], [⟨path, treatment.kind, .failed, 0⟩],
        [runLine .warning ("Cannot read " ++ path ++ ": " ++ fault.message)], reading.2⟩
  | .breakdown message => ⟨.error message, [], [], [], reading.2⟩
  | .text source =>
      if Text.isAllBlank source then
        ⟨.ok [], [], [⟨path, treatment.kind, .skipped, 0⟩], [], reading.2⟩
      else extractionReport treatment.kind path (treatment.extract reading.2 source path)

def filesReport (read : Storage.Reader State) (treatment : Treatment State Item) (state : State) :
    List String → PartReport State (List Item)
  | [] => .idle [] state
  | path :: rest =>
      (fileReport read treatment state path).andThen fun items state =>
        (filesReport read treatment state rest).map fun more => items ++ more

theorem extract_from_report (treatment : Treatment State Item) (path : String)
    (source : List Char) (progress : Progress State) :
    extractFrom treatment path source progress =
      (extractionReport treatment.kind path
        (treatment.extract progress.state source path)).stage progress := by
  unfold extractFrom extractionReport
  rcases treatment.extract progress.state source path with ⟨outcome, errors, journal, after⟩
  rcases outcome with (⟨message, details⟩ | ⟨message⟩) | items
  · simp [PartReport.stage, PartReport.onto, failExtraction, Progress.absorb, Progress.log,
      Progress.record, Progress.finishFile, ErrorLog.addAll, extractionError, tallied,
      FileNote.event]
  · simp [PartReport.stage, PartReport.onto, Progress.absorb, tallied]
  · simp [PartReport.stage, PartReport.onto, succeed, Progress.absorb, Progress.log,
      Progress.finishFile, tallied, FileNote.event]

theorem process_file_report (read : Storage.Reader State) (treatment : Treatment State Item)
    (progress : Progress State) (path : String) :
    processFile read treatment progress path =
      (fileReport read treatment progress.state path).stage progress := by
  unfold processFile fileReport
  rcases read progress.state path treatment.limit with ⟨reading, after⟩
  cases reading with
  | text source =>
      dsimp only
      split
      · simp [PartReport.stage, PartReport.onto, Progress.finishFile, ErrorLog.addAll, tallied,
          FileNote.event]
      · exact extract_from_report treatment path source { progress with state := after }
  | fault fault =>
      simp [PartReport.stage, PartReport.onto, failReading, Progress.log, Progress.record,
        Progress.finishFile, ErrorLog.addAll, tallied, FileNote.event]
  | breakdown message => simp [PartReport.stage, PartReport.onto, ErrorLog.addAll, tallied]

theorem process_files_report (read : Storage.Reader State) (treatment : Treatment State Item)
    (progress : Progress State) (paths : List String) :
    processFiles read treatment progress paths =
      (filesReport read treatment progress.state paths).stage progress := by
  induction paths generalizing progress with
  | nil =>
      simp [filesReport, processFiles, PartReport.stage, PartReport.idle, PartReport.onto,
        ErrorLog.addAll, tallied]
  | cons path paths ih =>
      unfold processFiles filesReport PartReport.andThen
      rw [process_file_report]
      cases ended : (fileReport read treatment progress.state path).outcome with
      | error message => simp [PartReport.stage, PartReport.onto, ended]
      | ok items =>
          have later := ih ((fileReport read treatment progress.state path).onto progress)
          simp only [PartReport.stage, ended] at later ⊢
          rw [later, PartReport.onto_append]
          rfl

end

/-! The whole analysis. -/

section

variable {State : Type}

def notedReport (lines : Journal) (state : State) : PartReport State Unit :=
  ⟨.ok (), [], [], lines, state⟩

@[simp] theorem noted_state (lines : Journal) (state : State) :
    (notedReport lines state).state = state := rfl

def workloadLines (work : Workload) : Journal :=
  (noteWorkload (⟨(), .fresh, .zero, [], []⟩ : Progress Unit) work).journal

theorem note_workload_report (progress : Progress State) (work : Workload) :
    noteWorkload progress work =
      (notedReport (workloadLines work) progress.state).onto progress := by
  simp [noteWorkload, notedReport, workloadLines, PartReport.onto, ErrorLog.addAll, tallied]

theorem log_report (progress : Progress State) (line : JournalLine) :
    progress.log line = (notedReport [line] progress.state).onto progress := by
  simp [Progress.log, notedReport, PartReport.onto, ErrorLog.addAll, tallied]

def analysisReport (parse : Markup.ModuleParser) (read : Storage.Reader State) (config : Config)
    (work : Workload) (state : State) : PartReport State (List Selector × List UsedName) :=
  (notedReport (workloadLines work) state).andThen fun _ state =>
    (filesReport read (stylesheetTreatment config) state work.stylesheets).andThen
      fun selectors state =>
        (notedReport [runLine .info ("Extracted " ++ toString selectors.length ++ " selectors")]
          state).andThen fun _ state =>
            (filesReport read (elementTreatment parse config) state work.elementModules).andThen
              fun elementNames state =>
                (filesReport read (decoratorTreatment parse read config) state
                  work.decoratedModules).andThen fun decoratedNames state =>
                    (notedReport [runLine .info ("Found " ++
                      toString (elementNames ++ decoratedNames).length ++ " used identifiers")]
                      state).map fun _ => (selectors, elementNames ++ decoratedNames)

def PartReport.conclusion (report : PartReport State (List Selector × List UsedName))
    (root : String) (generation : Nat) (progress : Progress State) : Outcome State :=
  match report.outcome with
  | .error message => abortBreakdown (report.onto progress) root generation message
  | .ok found => complete (report.onto progress) root generation found.1 found.2

theorem conclusion_of_and_then {Found : Type} (first : PartReport State Found)
    (later : Found → State → PartReport State (List Selector × List UsedName)) (root : String)
    (generation : Nat) (progress : Progress State) :
    (first.andThen later).conclusion root generation progress =
      match first.outcome with
      | .error message => abortBreakdown (first.onto progress) root generation message
      | .ok found =>
          (later found first.state).conclusion root generation (first.onto progress) := by
  unfold PartReport.andThen
  cases ended : first.outcome with
  | error message => rfl
  | ok found => simp only [PartReport.conclusion, PartReport.onto_append]; rfl

theorem conclusion_of_noted (lines : Journal) (state : State)
    (later : Unit → State → PartReport State (List Selector × List UsedName)) (root : String)
    (generation : Nat) (progress : Progress State) :
    ((notedReport lines state).andThen later).conclusion root generation progress =
      (later () state).conclusion root generation ((notedReport lines state).onto progress) :=
  conclusion_of_and_then _ later root generation progress

theorem analyze_report (parse : Markup.ModuleParser) (read : Storage.Reader State)
    (config : Config) (work : Workload) (root : String) (generation : Nat)
    (progress : Progress State) :
    analyze parse read config work root generation progress =
      (analysisReport parse read config work progress.state).conclusion root generation progress := by
  unfold analyze analysisReport
  simp only [conclusion_of_noted, note_workload_report, log_report, process_files_report,
    PartReport.stage, PartReport.onto_state, noted_state]
  generalize filesReport read (stylesheetTreatment config) progress.state work.stylesheets = sheets
  rw [conclusion_of_and_then]
  cases sheets.outcome with
  | error message => rfl
  | ok selectors =>
      dsimp only
      rw [conclusion_of_noted, conclusion_of_and_then]
      generalize filesReport read (elementTreatment parse config) sheets.state work.elementModules =
        elements
      cases elements.outcome with
      | error message => rfl
      | ok elementNames =>
          dsimp only
          rw [conclusion_of_and_then]
          generalize filesReport read (decoratorTreatment parse read config) elements.state
            work.decoratedModules = decorated
          cases decorated.outcome with
          | error message => rfl
          | ok decoratedNames => rfl

/-! Endings. -/

inductive Ending (State : Type) where
  | refused (fault : ConfigFault) (state : State)
  | unlisted (message : String) (state : State)
  | short (found minimum : Nat) (state : State)
  | analyzed (report : PartReport State (List Selector × List UsedName))

def ending (host : Host State) (options : Options) (root : String) (state : State) :
    Ending State :=
  match validate options with
  | .error fault => .refused fault state
  | .ok config =>
      match host.discover state root config.includeFileTypes config.excludePatterns with
      | (.error message, after) => .unlisted message after
      | (.ok stylesheets, between) =>
          match host.discover between root config.componentFileTypes config.excludePatterns with
          | (.error message, after) => .unlisted message after
          | (.ok components, after) =>
              if stylesheets.length < config.minFilesForAnalysis then
                .short stylesheets.length config.minFilesForAnalysis after
              else
                .analyzed
                  (analysisReport host.parse host.read config
                    (workload config stylesheets components) after)

/-- What a run gives that ends like this. -/
def Ending.outcome (root : String) (generation : Nat) (start : Progress State) :
    Ending State → Outcome State
  | .refused fault after =>
      abort { start with state := after } root generation .configuration fault.message none
  | .unlisted message after =>
      abort { start with state := after } root generation .fileAccess discoveryMessage
        (some message)
  | .short found minimum after =>
      skip { start with state := after } root generation found minimum
  | .analyzed report => report.conclusion root generation start

def runLogging (log : ErrorLog) (host : Host State) (options : Options) (root : String)
    (generation : Nat) (state : State) : Outcome State :=
  (ending host options root state).outcome root generation
    { Progress.start state (.started root generation) with errors := log }

theorem run_eq_run_logging (host : Host State) (options : Options) (root : String)
    (generation : Nat) (state : State) :
    run host options root generation state =
      runLogging .fresh host options root generation state := by
  unfold run runLogging ending
  cases validate options with
  | error fault => rfl
  | ok config =>
      dsimp only
      rcases host.discover state root config.includeFileTypes config.excludePatterns with
        ⟨sheets, between⟩
      cases sheets with
      | error message => rfl
      | ok stylesheets =>
          dsimp only
          rcases host.discover between root config.componentFileTypes config.excludePatterns with
            ⟨modules, after⟩
          cases modules with
          | error message => rfl
          | ok components =>
              dsimp only
              split
              · rfl
              · exact analyze_report host.parse host.read config _ root generation _

end

end SelectorAudit.Analysis
