import Mathlib
import SelectorAudit.Proofs.Analysis.AllOrNothing

/-!
# The books of a run

A run keeps three books about its files: the tallies, the events and the error log. Each file that a
run gets through makes one entry in all of them: it is tallied once under its kind, announced once,
and leaves the records of its extractor along with one record of its own if it has failed. A
breakdown may leave records of the file it struck, but neither a tally nor an event. Behind a run
that completes, the announced files are those that were discovered, kind by kind, and what they
announce adds up to what the run has found.
-/

namespace SelectorAudit.Analysis

set_option autoImplicit false

open Report Settings

/-! Events about files. -/

def fileOf? : Event → Option (String × SourceKind)
  | .fileAnalyzed path kind _ _ => some (path, kind)
  | _ => none

def isOfKind (kind : SourceKind) (file : Option (String × SourceKind)) : Bool :=
  file.any fun named => named.2 = kind

def fileEvents (kind : SourceKind) (events : List Event) : List Event :=
  events.filter fun event => isOfKind kind (fileOf? event)

def tellsFailure : Event → Bool
  | .fileAnalyzed _ _ ok _ => !ok
  | _ => false

def recordsTold : Event → Nat
  | .fileAnalyzed _ _ _ records => records
  | _ => 0

def notesOf (kind : SourceKind) (notes : List FileNote) : List FileNote :=
  notes.filter fun note => note.kind = kind

/-! Tallies. -/

theorem count_get (counts : ScanCounts) (counted kind : SourceKind) (outcome : FileOutcome) :
    (counts.count counted outcome).get kind =
      if counted = kind then (counts.get kind).count outcome else counts.get kind := by
  cases counted <;> cases kind <;> rfl

theorem tallied_get (counts : ScanCounts) (notes : List FileNote) (kind : SourceKind) :
    (tallied counts notes).get kind =
      (notesOf kind notes).foldl (fun tally note => tally.count note.outcome)
        (counts.get kind) := by
  induction notes generalizing counts with
  | nil => rfl
  | cons note later ih =>
      have step := ih (counts.count note.kind note.outcome)
      rw [count_get] at step
      unfold tallied notesOf at step ⊢
      rw [List.foldl_cons, step]
      by_cases same : note.kind = kind
      · simp [same]
      · simp [same]

theorem tally_fold_total (tally : Tally) (notes : List FileNote) :
    (notes.foldl (fun tally note => tally.count note.outcome) tally).total =
      tally.total + notes.length := by
  induction notes generalizing tally with
  | nil => rfl
  | cons note later ih =>
      have one : (tally.count note.outcome).total = tally.total + 1 := by
        cases note.outcome <;> simp only [Tally.count, Tally.total] <;> omega
      rw [List.foldl_cons, ih, one, List.length_cons]
      omega

theorem tally_fold_failed (tally : Tally) (notes : List FileNote) :
    (notes.foldl (fun tally note => tally.count note.outcome) tally).failed =
      tally.failed + (notes.map FileNote.event).countP tellsFailure := by
  induction notes generalizing tally with
  | nil => rfl
  | cons note later ih =>
      have one : (tally.count note.outcome).failed =
          tally.failed + if tellsFailure note.event then 1 else 0 := by
        unfold FileNote.event
        cases note.outcome <;> rfl
      rw [List.foldl_cons, ih, one, List.map_cons, List.countP_cons]
      omega

/-! Accounts of files. -/

structure FileAccount where
  note : FileNote
  logged : List ErrorRecord
  failure : Option ErrorRecord

namespace FileAccount

def records (account : FileAccount) : List ErrorRecord :=
  account.logged ++ account.failure.toList

structure Balanced (account : FileAccount) : Prop where
  failed_iff : account.failure.isSome = true ↔ account.note.outcome = .failed
  named : ∀ record ∈ account.failure, record.file = some account.note.path

end FileAccount

section

variable {State Item : Type}

def Treatment.logged (treatment : Treatment State Item) (read : Storage.Reader State)
    (state : State) (path : String) : List ErrorRecord :=
  match read state path treatment.limit with
  | (.text source, after) =>
      if Text.isAllBlank source then [] else (treatment.extract after source path).errors
  | _ => []

def extractorRecords (parse : Markup.ModuleParser) (read : Storage.Reader State)
    (config : Config) (state : State) (kind : SourceKind) (path : String) : List ErrorRecord :=
  match kind with
  | .stylesheet => (stylesheetTreatment config).logged read state path
  | .jsx => (elementTreatment parse config).logged read state path
  | .decorator => (decoratorTreatment parse read config).logged read state path

/-- The records of an account are those that its file's extractor logs on this host. -/
def FileAccount.Honest (parse : Markup.ModuleParser) (read : Storage.Reader State)
    (config : Config) (account : FileAccount) : Prop :=
  ∃ state, account.logged =
    extractorRecords parse read config state account.note.kind account.note.path

/-- The files of a part of a run are on its books, and what is left over was logged on the file that
broke it down. -/
structure OnBooks {Found : Type} (honest : FileAccount → Prop) (report : PartReport State Found)
    (accounts : List FileAccount) (rest : List ErrorRecord) : Prop where
  notes : report.notes = accounts.map FileAccount.note
  errors : report.errors = accounts.flatMap FileAccount.records ++ rest
  balanced : ∀ account ∈ accounts, account.Balanced
  sincere : ∀ account ∈ accounts, honest account
  settled : brokeDown report.outcome = false → rest = []

def Booked {Found : Type} (honest : FileAccount → Prop) (report : PartReport State Found) : Prop :=
  ∃ accounts rest, OnBooks honest report accounts rest

variable {honest : FileAccount → Prop}

theorem booked_nothing {Found : Type} {report : PartReport State Found}
    (notes : report.notes = []) (errors : report.errors = []) : Booked honest report :=
  ⟨[], [], notes, errors, List.forall_mem_nil _, List.forall_mem_nil _, fun _ => rfl⟩

theorem booked_single {Found : Type} {report : PartReport State Found} {account : FileAccount}
    (notes : report.notes = [account.note]) (errors : report.errors = account.records)
    (balanced : account.Balanced) (sincere : honest account) : Booked honest report := by
  refine ⟨[account], [], notes, ?_, List.forall_mem_singleton.mpr balanced,
    List.forall_mem_singleton.mpr sincere, fun _ => rfl⟩
  rw [errors, List.append_nil, List.flatMap_singleton]

theorem booked_and_then {Found Later : Type} {first : PartReport State Found}
    {later : Found → State → PartReport State Later} (before : Booked honest first)
    (behind : ∀ found state, Booked honest (later found state)) :
    Booked honest (first.andThen later) := by
  obtain ⟨accounts, rest, notes, errors, balanced, sincere, settled⟩ := before
  unfold PartReport.andThen
  cases ended : first.outcome with
  | error message => exact ⟨accounts, rest, notes, errors, balanced, sincere, by rintro ⟨⟩⟩
  | ok found =>
      rw [ended] at settled
      obtain ⟨more, left, laterNotes, laterErrors, laterBalanced, laterSincere, laterSettled⟩ :=
        behind found first.state
      refine ⟨accounts ++ more, left, ?_, ?_, ?_, ?_, laterSettled⟩
      · show first.notes ++ _ = _
        rw [notes, laterNotes, List.map_append]
      · show first.errors ++ _ = _
        rw [errors, settled rfl, laterErrors, List.flatMap_append, List.append_nil,
          List.append_assoc]
      · exact List.forall_mem_append.mpr ⟨balanced, laterBalanced⟩
      · exact List.forall_mem_append.mpr ⟨sincere, laterSincere⟩

theorem booked_map {Found Later : Type} {report : PartReport State Found}
    (change : Found → Later) (booked : Booked honest report) :
    Booked honest (report.map change) := by
  obtain ⟨accounts, rest, notes, errors, balanced, sincere, settled⟩ := booked
  refine ⟨accounts, rest, notes, errors, balanced, sincere, ?_⟩
  unfold PartReport.map
  rw [broke_down_map]
  exact settled

def Treatment.Sincere (treatment : Treatment State Item) (honest : FileAccount → Prop)
    (read : Storage.Reader State) : Prop :=
  ∀ state path outcome records failure,
    honest ⟨⟨path, treatment.kind, outcome, records⟩, treatment.logged read state path, failure⟩

/-- Each way in which the reading of a file can end makes one account, or breaks the run down. -/
theorem file_report_booked (read : Storage.Reader State) {treatment : Treatment State Item}
    (sincere : treatment.Sincere honest read) (state : State) (path : String) :
    Booked honest (fileReport read treatment state path) := by
  have account := sincere state path
  unfold Treatment.logged at account
  unfold fileReport
  generalize read state path treatment.limit = answer at account ⊢
  obtain ⟨reading, after⟩ := answer
  cases reading with
  | fault fault =>
      refine booked_single rfl rfl ⟨?_, ?_⟩ (account .failed 0 (some (accessError path fault)))
      · exact iff_of_true rfl rfl
      · rintro record ⟨⟩
        rfl
  | breakdown message => exact booked_nothing rfl rfl
  | text source =>
      dsimp only at account ⊢
      by_cases blank : Text.isAllBlank source = true
      · rw [if_pos blank] at account ⊢
        refine booked_single rfl rfl ⟨?_, ?_⟩ (account .skipped 0 none)
        · exact iff_of_false (by rintro ⟨⟩) (by rintro ⟨⟩)
        · rintro record ⟨⟩
      · rw [if_neg blank] at account ⊢
        unfold extractionReport
        generalize treatment.extract after source path = extracted at account ⊢
        obtain ⟨outcome, errors, journal, final⟩ := extracted
        obtain (⟨message, details⟩ | message) | items := outcome
        · refine booked_single rfl rfl ⟨?_, ?_⟩
            (account .failed 0 (some (extractionError treatment.kind path message details)))
          · exact iff_of_true rfl rfl
          · rintro record ⟨⟩
            rfl
        · exact ⟨[], errors, rfl, rfl, List.forall_mem_nil _, List.forall_mem_nil _, by rintro ⟨⟩⟩
        · refine booked_single rfl ?_ ⟨?_, ?_⟩ (account .succeeded items.length none)
          · exact (List.append_nil errors).symm
          · exact iff_of_false (by rintro ⟨⟩) (by rintro ⟨⟩)
          · rintro record ⟨⟩

theorem files_report_booked (read : Storage.Reader State) {treatment : Treatment State Item}
    (sincere : treatment.Sincere honest read) (state : State) (paths : List String) :
    Booked honest (filesReport read treatment state paths) := by
  induction paths generalizing state with
  | nil => exact booked_nothing rfl rfl
  | cons path paths ih =>
      apply booked_and_then (file_report_booked read sincere state path)
      intro items after
      exact booked_map _ (ih after)

theorem analysis_report_booked (parse : Markup.ModuleParser) (read : Storage.Reader State)
    (config : Config) (work : Workload) (state : State) :
    Booked (FileAccount.Honest parse read config)
      (analysisReport parse read config work state) := by
  have sheets : (stylesheetTreatment config).Sincere
      (FileAccount.Honest parse read config) read :=
    fun state _ _ _ _ => ⟨state, rfl⟩
  have elements : (elementTreatment parse config).Sincere
      (FileAccount.Honest parse read config) read :=
    fun state _ _ _ _ => ⟨state, rfl⟩
  have decorated : (decoratorTreatment parse read config).Sincere
      (FileAccount.Honest parse read config) read :=
    fun state _ _ _ _ => ⟨state, rfl⟩
  apply booked_and_then (booked_nothing rfl rfl)
  intro _ state
  apply booked_and_then (files_report_booked read sheets state _)
  intro _ state
  apply booked_and_then (booked_nothing rfl rfl)
  intro _ state
  apply booked_and_then (files_report_booked read elements state _)
  intro _ state
  apply booked_and_then (files_report_booked read decorated state _)
  intro _ state
  exact booked_nothing rfl rfl

/-! Parts that find something. -/

theorem and_then_finds {Found Later : Type} {first : PartReport State Found}
    {later : Found → State → PartReport State Later} {result : Later}
    (ended : (first.andThen later).outcome = .ok result) :
    ∃ found, first.outcome = .ok found ∧ (later found first.state).outcome = .ok result ∧
      (first.andThen later).notes = first.notes ++ (later found first.state).notes := by
  unfold PartReport.andThen at ended ⊢
  cases firstEnded : first.outcome with
  | error message =>
      rw [firstEnded] at ended
      cases ended
  | ok found =>
      rw [firstEnded] at ended
      exact ⟨found, rfl, ended, rfl⟩

theorem map_finds {Found Later : Type} {report : PartReport State Found} {change : Found → Later}
    {result : Later} (ended : (report.map change).outcome = .ok result) :
    ∃ found, report.outcome = .ok found ∧ change found = result := by
  unfold PartReport.map at ended
  cases given : report.outcome with
  | error message =>
      rw [given] at ended
      cases ended
  | ok found =>
      rw [given] at ended
      exact ⟨found, rfl, Except.ok.inj ended⟩

/-- What is noted about a file that a run gets through: it has records only if it has succeeded. -/
theorem file_report_note {read : Storage.Reader State} {treatment : Treatment State Item}
    {state : State} {path : String} {items : List Item}
    (ended : (fileReport read treatment state path).outcome = .ok items) :
    ∃ outcome, (fileReport read treatment state path).notes =
        [⟨path, treatment.kind, outcome, items.length⟩] ∧
      (outcome ≠ .succeeded → items = []) := by
  unfold fileReport at ended ⊢
  generalize read state path treatment.limit = answer at ended ⊢
  obtain ⟨reading, after⟩ := answer
  cases reading with
  | fault fault =>
      cases ended
      exact ⟨.failed, rfl, fun _ => rfl⟩
  | breakdown message => cases ended
  | text source =>
      dsimp only at ended ⊢
      by_cases blank : Text.isAllBlank source = true
      · rw [if_pos blank] at ended ⊢
        cases ended
        exact ⟨.skipped, rfl, fun _ => rfl⟩
      · rw [if_neg blank] at ended ⊢
        unfold extractionReport at ended ⊢
        generalize treatment.extract after source path = extracted at ended ⊢
        obtain ⟨outcome, errors, journal, final⟩ := extracted
        obtain (⟨message, details⟩ | message) | found := outcome
        · cases ended
          exact ⟨.failed, rfl, fun _ => rfl⟩
        · cases ended
        · cases ended
          exact ⟨.succeeded, rfl, fun other => absurd rfl other⟩

structure NotesTell (notes : List FileNote) (kind : SourceKind) (paths : List String)
    (records : Nat) : Prop where
  paths : notes.map FileNote.path = paths
  kinds : ∀ note ∈ notes, note.kind = kind
  records : (notes.map FileNote.records).sum = records

theorem files_report_notes {read : Storage.Reader State} {treatment : Treatment State Item}
    {state : State} {paths : List String} {items : List Item}
    (ended : (filesReport read treatment state paths).outcome = .ok items) :
    NotesTell (filesReport read treatment state paths).notes treatment.kind paths
      items.length := by
  induction paths generalizing state items with
  | nil =>
      cases ended
      exact ⟨rfl, List.forall_mem_nil _, rfl⟩
  | cons path paths ih =>
      obtain ⟨here, firstEnded, restEnded, notes⟩ := and_then_finds ended
      obtain ⟨more, laterEnded, joined⟩ := map_finds restEnded
      obtain ⟨outcome, note, _⟩ := file_report_note firstEnded
      obtain ⟨laterPaths, laterKinds, laterRecords⟩ := ih laterEnded
      have shape : (filesReport read treatment state (path :: paths)).notes =
          ⟨path, treatment.kind, outcome, here.length⟩ :: (filesReport read treatment
            (fileReport read treatment state path).state paths).notes := by
        rw [filesReport, notes, note]
        rfl
      rw [shape]
      refine ⟨?_, ?_, ?_⟩
      · rw [List.map_cons, laterPaths]
      · exact List.forall_mem_cons.mpr ⟨rfl, laterKinds⟩
      · rw [List.map_cons, List.sum_cons, laterRecords, ← joined, List.length_append]

theorem analysis_report_notes {parse : Markup.ModuleParser} {read : Storage.Reader State}
    {config : Config} {work : Workload} {state : State} {selectors : List Selector}
    {used : List UsedName}
    (ended : (analysisReport parse read config work state).outcome = .ok (selectors, used)) :
    ∃ sheets elements decorated elementCount decoratedCount,
      (analysisReport parse read config work state).notes = sheets ++ elements ++ decorated ∧
      NotesTell sheets .stylesheet work.stylesheets selectors.length ∧
      NotesTell elements .jsx work.elementModules elementCount ∧
      NotesTell decorated .decorator work.decoratedModules decoratedCount ∧
      used.length = elementCount + decoratedCount := by
  unfold analysisReport at ended ⊢
  obtain ⟨_, _, ended, notes⟩ := and_then_finds ended
  obtain ⟨declared, sheetsEnded, ended, sheetNotes⟩ := and_then_finds ended
  obtain ⟨_, _, ended, lineNotes⟩ := and_then_finds ended
  obtain ⟨elementNames, elementsEnded, ended, elementNotes⟩ := and_then_finds ended
  obtain ⟨decoratedNames, decoratedEnded, ended, decoratedNotes⟩ := and_then_finds ended
  obtain ⟨_, _, found⟩ := map_finds ended
  cases found
  refine ⟨_, _, _, elementNames.length, decoratedNames.length, ?_, files_report_notes sheetsEnded,
    files_report_notes elementsEnded, files_report_notes decoratedEnded, List.length_append⟩
  rw [notes, sheetNotes, lineNotes, elementNotes, decoratedNotes]
  simp [notedReport, PartReport.map, List.append_assoc]

/-! The whole run. -/

/-- The files that a run got through before its end. -/
def Ending.notes : Ending State → List FileNote
  | .analyzed report => report.notes
  | _ => []

/-- The tallies and the events of a run are those of its notes, between the first and the last
event, which are about no file. -/
theorem ending_noted (root : String) (generation : Nat) (state : State) (theEnd : Ending State) :
    let outcome := theEnd.outcome root generation (.start state (.started root generation))
    outcome.result.counts = tallied .zero theEnd.notes ∧
    ∃ last, fileOf? last = none ∧
      outcome.events = .started root generation :: theEnd.notes.map FileNote.event ++ [last] := by
  cases theEnd with
  | refused fault after => exact ⟨rfl, _, rfl, rfl⟩
  | unlisted message after => exact ⟨rfl, _, rfl, rfl⟩
  | short found minimum after => exact ⟨rfl, _, rfl, rfl⟩
  | analyzed report =>
      obtain ⟨outcome, errors, notes, journal, after⟩ := report
      cases outcome with
      | error message => exact ⟨rfl, _, rfl, rfl⟩
      | ok found => exact ⟨rfl, _, rfl, rfl⟩

/-- The notes of a run on a host. -/
def runNotes (host : Host State) (options : Options) (root : String) (state : State) :
    List FileNote :=
  (ending host options root state).notes

theorem run_noted (host : Host State) (options : Options) (root : String) (generation : Nat)
    (state : State) :
    (run host options root generation state).result.counts =
      tallied .zero (runNotes host options root state) ∧
    ∃ last, fileOf? last = none ∧
      (run host options root generation state).events =
        .started root generation :: (runNotes host options root state).map FileNote.event ++
          [last] := by
  rw [run_eq_run_logging]
  exact ending_noted root generation state (ending host options root state)

theorem run_events_picked (host : Host State) (options : Options) (root : String)
    (generation : Nat) (state : State) (pick : Option (String × SourceKind) → Bool)
    (files : pick none = false) :
    (run host options root generation state).events.filter (fun event => pick (fileOf? event)) =
      ((runNotes host options root state).filter fun note =>
        pick (some (note.path, note.kind))).map FileNote.event := by
  obtain ⟨_, last, elsewhere, events⟩ := run_noted host options root generation state
  have before : ¬ pick (fileOf? (.started root generation)) = true := by
    rw [show fileOf? (.started root generation) = none from rfl, files]
    exact Bool.false_ne_true
  have behind : ¬ pick (fileOf? last) = true := by
    rw [elsewhere, files]
    exact Bool.false_ne_true
  rw [events, List.filter_append, List.filter_cons, if_neg before, List.filter_cons,
    if_neg behind, List.filter_nil, List.append_nil, List.filter_map]
  rfl

theorem run_file_events (host : Host State) (options : Options) (root : String)
    (generation : Nat) (state : State) (kind : SourceKind) :
    fileEvents kind (run host options root generation state).events =
      (notesOf kind (runNotes host options root state)).map FileNote.event :=
  run_events_picked host options root generation state (isOfKind kind) rfl

theorem run_files_in_order (host : Host State) (options : Options) (root : String)
    (generation : Nat) (state : State) :
    (run host options root generation state).events.filterMap fileOf? =
      (runNotes host options root state).map fun note => (note.path, note.kind) := by
  obtain ⟨_, last, elsewhere, events⟩ := run_noted host options root generation state
  rw [events, List.filterMap_append, List.filterMap_cons_none rfl, List.filterMap_map,
    List.filterMap_cons_none elsewhere, List.filterMap_nil, List.append_nil]
  exact congrFun List.filterMap_eq_map' _

/-- A run that gets as far as reading files has checked its options and listed the files. -/
theorem ending_cases (host : Host State) (options : Options) (root : String) (state : State) :
    (∃ config stylesheets between components after, validate options = .ok config ∧
      host.discover state root config.includeFileTypes config.excludePatterns =
        (.ok stylesheets, between) ∧
      host.discover between root config.componentFileTypes config.excludePatterns =
        (.ok components, after) ∧
      ending host options root state = .analyzed
        (analysisReport host.parse host.read config
          (workload config stylesheets components) after)) ∨
    ∀ report, ending host options root state ≠ .analyzed report := by
  unfold ending
  cases checked : validate options with
  | error fault => exact Or.inr fun report => by rintro ⟨⟩
  | ok config =>
      dsimp only
      rcases listed : host.discover state root config.includeFileTypes config.excludePatterns with
        ⟨sheets, between⟩
      cases sheets with
      | error message => exact Or.inr fun report => by rintro ⟨⟩
      | ok stylesheets =>
          dsimp only
          rcases listedToo : host.discover between root config.componentFileTypes
            config.excludePatterns with ⟨modules, after⟩
          cases modules with
          | error message => exact Or.inr fun report => by rintro ⟨⟩
          | ok components =>
              dsimp only
              split
              · exact Or.inr fun report => by rintro ⟨⟩
              · exact Or.inl ⟨config, stylesheets, between, components, after, rfl, listed,
                  listedToo, rfl⟩

/-- Only a run that has read all its files completes, with what they gave. -/
theorem completed_report {root : String} {generation : Nat} {start : Progress State}
    {theEnd : Ending State}
    (completed : (theEnd.outcome root generation start).result.status = .completed) :
    ∃ report, theEnd = .analyzed report ∧
      report.outcome = .ok ((theEnd.outcome root generation start).result.selectors,
        (theEnd.outcome root generation start).result.used) := by
  cases theEnd with
  | refused | unlisted | short => cases completed
  | analyzed report =>
      obtain ⟨outcome, errors, notes, journal, after⟩ := report
      cases outcome with
      | error message => cases completed
      | ok found => exact ⟨_, rfl, rfl⟩

/-- A run that completes has listed its files, read them all and found what its result holds. -/
theorem completed_analysis {host : Host State} {options : Options} {root : String}
    {generation : Nat} {state : State}
    (completed : (run host options root generation state).result.status = .completed) :
    ∃ config stylesheets between components after, validate options = .ok config ∧
      host.discover state root config.includeFileTypes config.excludePatterns =
        (.ok stylesheets, between) ∧
      host.discover between root config.componentFileTypes config.excludePatterns =
        (.ok components, after) ∧
      ending host options root state =
        .analyzed (analysisReport host.parse host.read config
          (workload config stylesheets components) after) ∧
      (analysisReport host.parse host.read config
        (workload config stylesheets components) after).outcome =
        .ok ((run host options root generation state).result.selectors,
          (run host options root generation state).result.used) := by
  rw [run_eq_run_logging] at completed ⊢
  obtain ⟨report, analyzed, found⟩ := completed_report completed
  rcases ending_cases host options root state with
    ⟨config, stylesheets, between, components, after, valid, listed, listedToo, shape⟩ | other
  · refine ⟨config, stylesheets, between, components, after, valid, listed, listedToo, shape, ?_⟩
    rw [analyzed] at shape
    rw [← Ending.analyzed.inj shape]
    exact found
  · exact absurd analyzed (other report)

/-- The files of a workload in the order in which they are read. -/
def Workload.files (work : Workload) : List (String × SourceKind) :=
  work.stylesheets.map (fun path => (path, .stylesheet)) ++
    work.elementModules.map (fun path => (path, .jsx)) ++
    work.decoratedModules.map (fun path => (path, .decorator))

/-- A run has got through a workload, and its findings are what the files announce. -/
structure Fulfils (outcome : Outcome State) (work : Workload) : Prop where
  stylesheets : (outcome.result.counts.get .stylesheet).total = work.stylesheets.length
  elementModules : (outcome.result.counts.get .jsx).total = work.elementModules.length
  decoratedModules : (outcome.result.counts.get .decorator).total = work.decoratedModules.length
  selectors : ((fileEvents .stylesheet outcome.events).map recordsTold).sum =
    outcome.result.selectors.length
  used : ((fileEvents .jsx outcome.events).map recordsTold).sum +
    ((fileEvents .decorator outcome.events).map recordsTold).sum = outcome.result.used.length
  order : outcome.events.filterMap fileOf? = work.files

/-- The tallies, the events and the error records of a run agree. -/
structure BooksAgree (host : Host State) (options : Options) (root : String) (state : State)
    (outcome : Outcome State) (history : List ErrorRecord) : Prop where
  totals : ∀ kind, (outcome.result.counts.get kind).total =
    (fileEvents kind outcome.events).length
  failures : ∀ kind, (outcome.result.counts.get kind).failed =
    (fileEvents kind outcome.events).countP tellsFailure
  logged : outcome.result.errors = ErrorLog.fresh.addAll history
  /-- Every announced file has its records in the log: those of its extractor, and one of its own
  exactly if it has failed. -/
  records : ∃ (accounts : List FileAccount) (rest : List ErrorRecord),
    outcome.events.filter (fun event => (fileOf? event).isSome) =
      accounts.map (fun account => account.note.event) ∧
    history = accounts.flatMap FileAccount.records ++ rest ∧
    (∀ account ∈ accounts, account.Balanced) ∧
    (∀ config, validate options = .ok config →
      ∀ account ∈ accounts, account.Honest host.parse host.read config) ∧
    (outcome.result.status = .completed → rest = [])
  completed : outcome.result.status = .completed →
    ∃ config stylesheets between components after, validate options = .ok config ∧
      host.discover state root config.includeFileTypes config.excludePatterns =
        (.ok stylesheets, between) ∧
      host.discover between root config.componentFileTypes config.excludePatterns =
        (.ok components, after) ∧
      Fulfils outcome (workload config stylesheets components)

theorem ending_booked (host : Host State) (options : Options) (root : String) (state : State) :
    ∃ (accounts : List FileAccount) (rest : List ErrorRecord),
      (ending host options root state).notes = accounts.map FileAccount.note ∧
      (ending host options root state).early ++ (ending host options root state).fatal?.toList =
        accounts.flatMap FileAccount.records ++ rest ∧
      (∀ account ∈ accounts, account.Balanced) ∧
      (∀ config, validate options = .ok config →
        ∀ account ∈ accounts, account.Honest host.parse host.read config) ∧
      ((ending host options root state).fatal? = none → rest = []) := by
  rcases ending_cases host options root state with
    ⟨config, stylesheets, _, components, after, valid, _, _, shape⟩ | other
  · obtain ⟨accounts, rest, notes, errors, balanced, sincere, settled⟩ :=
      analysis_report_booked host.parse host.read config
        (workload config stylesheets components) after
    rw [shape]
    generalize analysisReport host.parse host.read config
      (workload config stylesheets components) after = report at notes errors settled
    refine ⟨accounts, rest ++ (Ending.analyzed report).fatal?.toList, notes, ?_, balanced, ?_, ?_⟩
    · show report.errors ++ _ = _
      rw [errors, List.append_assoc]
    · intro same alike
      rw [Except.ok.inj (alike.symm.trans valid)]
      exact sincere
    · intro unbroken
      have kept : brokeDown report.outcome = false := by
        obtain ⟨outcome, _, _, _, _⟩ := report
        cases outcome with
        | error message => cases unbroken
        | ok found => rfl
      rw [settled kept, unbroken]
      rfl
  · have nothing : (ending host options root state).notes = [] ∧
        (ending host options root state).early = [] := by
      cases shape : ending host options root state with
      | analyzed report => exact absurd shape (other report)
      | refused | unlisted | short => exact ⟨rfl, rfl⟩
    refine ⟨[], (ending host options root state).fatal?.toList, nothing.1, ?_,
      List.forall_mem_nil _, fun _ _ => List.forall_mem_nil _, ?_⟩
    · rw [nothing.2]
      rfl
    · intro unbroken
      rw [unbroken]
      rfl

theorem notes_of_kind {notes : List FileNote} {kind : SourceKind} {paths : List String}
    {records : Nat} (told : NotesTell notes kind paths records) : notesOf kind notes = notes := by
  apply List.filter_eq_self.mpr
  intro note member
  exact decide_eq_true (told.kinds note member)

theorem notes_of_other_kind {notes : List FileNote} {kind other : SourceKind}
    {paths : List String} {records : Nat} (told : NotesTell notes kind paths records)
    (different : kind ≠ other) : notesOf other notes = [] := by
  apply List.filter_eq_nil_iff.mpr
  intro note member
  rw [told.kinds note member, decide_eq_true_iff]
  exact different

theorem notes_told {notes : List FileNote} {kind : SourceKind} {paths : List String}
    {records : Nat} (told : NotesTell notes kind paths records) :
    notes.length = paths.length ∧
    ((notes.map FileNote.event).map recordsTold).sum = records ∧
    (notes.map fun note => (note.path, note.kind)) = paths.map fun path => (path, kind) := by
  refine ⟨?_, ?_, ?_⟩
  · rw [← told.paths, List.length_map]
  · rw [List.map_map]
    exact told.records
  · rw [← told.paths, List.map_map]
    apply List.map_congr_left
    intro note member
    rw [told.kinds note member]
    rfl

theorem notes_of_append (kind : SourceKind) (first later : List FileNote) :
    notesOf kind (first ++ later) = notesOf kind first ++ notesOf kind later :=
  List.filter_append first later

theorem completed_fulfils {host : Host State} {options : Options} {root : String}
    {generation : Nat} {state after : State} {config : Config} {work : Workload}
    (totals : ∀ kind, ((run host options root generation state).result.counts.get kind).total =
      (fileEvents kind (run host options root generation state).events).length)
    (analyzed : ending host options root state =
      .analyzed (analysisReport host.parse host.read config work after))
    (found : (analysisReport host.parse host.read config work after).outcome =
      .ok ((run host options root generation state).result.selectors,
        (run host options root generation state).result.used)) :
    Fulfils (run host options root generation state) work := by
  obtain ⟨sheets, elements, decorated, elementCount, decoratedCount, notes, sheetsTold,
    elementsTold, decoratedTold, usedCount⟩ := analysis_report_notes found
  obtain ⟨sheetsLength, sheetsRecords, sheetsFiles⟩ := notes_told sheetsTold
  obtain ⟨elementsLength, elementsRecords, elementsFiles⟩ := notes_told elementsTold
  obtain ⟨decoratedLength, decoratedRecords, decoratedFiles⟩ := notes_told decoratedTold
  have all : runNotes host options root state = sheets ++ elements ++ decorated := by
    rw [runNotes, analyzed]
    exact notes
  -- Each group of notes is of one kind, so a kind picks out its group.
  have ofSheets : fileEvents .stylesheet (run host options root generation state).events =
      sheets.map FileNote.event := by
    rw [run_file_events, all, notes_of_append, notes_of_append, notes_of_kind sheetsTold,
      notes_of_other_kind elementsTold (by decide), notes_of_other_kind decoratedTold (by decide),
      List.append_nil, List.append_nil]
  have ofElements : fileEvents .jsx (run host options root generation state).events =
      elements.map FileNote.event := by
    rw [run_file_events, all, notes_of_append, notes_of_append, notes_of_kind elementsTold,
      notes_of_other_kind sheetsTold (by decide), notes_of_other_kind decoratedTold (by decide),
      List.nil_append, List.append_nil]
  have ofDecorated : fileEvents .decorator (run host options root generation state).events =
      decorated.map FileNote.event := by
    rw [run_file_events, all, notes_of_append, notes_of_append, notes_of_kind decoratedTold,
      notes_of_other_kind sheetsTold (by decide), notes_of_other_kind elementsTold (by decide),
      List.nil_append, List.nil_append]
  refine ⟨?_, ?_, ?_, ?_, ?_, ?_⟩
  · rw [totals, ofSheets, List.length_map, sheetsLength]
  · rw [totals, ofElements, List.length_map, elementsLength]
  · rw [totals, ofDecorated, List.length_map, decoratedLength]
  · rw [ofSheets, sheetsRecords]
  · rw [ofElements, ofDecorated, elementsRecords, decoratedRecords, usedCount]
  · rw [run_files_in_order, all, List.map_append, List.map_append, sheetsFiles, elementsFiles,
      decoratedFiles]
    rfl

/-- Whatever its host does, the books of a run agree with each other and with what it has found. -/
theorem run_books_agree (host : Host State) (options : Options) (root : String)
    (generation : Nat) (state : State) :
    BooksAgree host options root state (run host options root generation state)
      (errorHistory host options root generation state) := by
  obtain ⟨counts, _⟩ := run_noted host options root generation state
  have totals : ∀ kind, ((run host options root generation state).result.counts.get kind).total =
      (fileEvents kind (run host options root generation state).events).length := by
    intro kind
    rw [counts, tallied_get, tally_fold_total, run_file_events, List.length_map]
    cases kind <;> exact Nat.zero_add _
  have shown := run_shown host options root generation state
  have history := error_history_eq host options root generation state
  refine ⟨totals, ?_, ?_, ?_, ?_⟩
  · intro kind
    rw [counts, tallied_get, tally_fold_failed, run_file_events]
    cases kind <;> exact Nat.zero_add _
  · rw [history]
    exact shown.errors
  · obtain ⟨accounts, rest, notes, errors, balanced, sincere, settled⟩ :=
      ending_booked host options root state
    refine ⟨accounts, rest, ?_, ?_, balanced, sincere, ?_⟩
    · have every : ((runNotes host options root state).filter fun note =>
          (some (note.path, note.kind)).isSome) = runNotes host options root state :=
        List.filter_eq_self.mpr fun _ _ => rfl
      rw [run_events_picked host options root generation state Option.isSome rfl, every, runNotes,
        notes, List.map_map]
      rfl
    · rw [history, errors]
    · intro completed
      apply settled
      rw [← Option.not_isSome_iff_eq_none, ← shown.aborted_iff, completed]
      decide
  · intro completed
    obtain ⟨config, stylesheets, between, components, after, valid, listed, listedToo, analyzed,
      found⟩ := completed_analysis completed
    exact ⟨config, stylesheets, between, components, after, valid, listed, listedToo,
      completed_fulfils totals analyzed found⟩

end

end SelectorAudit.Analysis
