import SelectorAudit.Proofs.Analysis.RunRequests

/-!
# Runs are all or nothing

However a run is interrupted, what it has found is either all reported or not at all. A run is
aborted exactly if its options are invalid or one of its requests fails. It then has no findings,
and the newest record of its log is the only one ever logged that cannot be recovered from. A run
with too few style sheets reads no file and logs nothing, and a run that completes has logged
recoverable records only. In between, a run announces nothing but the files it has looked at.
-/

namespace SelectorAudit.Analysis

set_option autoImplicit false

open Report Settings

/-! Logs. -/

theorem unlimited_records (log : ErrorLog) (records : List ErrorRecord)
    (unlimited : log.capacity = none) :
    (log.addAll records).records = records.reverse ++ log.records := by
  induction records generalizing log with
  | nil => rfl
  | cons record later ih =>
      have added : (log.add record).records = record :: log.records := by
        simp [ErrorLog.add, unlimited]
      have grown := ih (log.add record) unlimited
      rw [added] at grown
      simpa [ErrorLog.addAll] using grown

theorem kept_was_added (log : ErrorLog) (records : List ErrorRecord) {record : ErrorRecord}
    (kept : record ∈ (log.addAll records).records) : record ∈ log.records ∨ record ∈ records := by
  induction records generalizing log with
  | nil => exact Or.inl kept
  | cons first later ih =>
      rcases ih (log.add first) kept with before | added
      · have either : record ∈ first :: log.records := by
          unfold ErrorLog.add at before
          dsimp only at before
          split at before
          · exact List.mem_of_mem_take before
          · exact before
        rcases List.mem_cons.mp either with same | old
        · exact Or.inr (by rw [same]; exact List.mem_cons_self)
        · exact Or.inl old
      · exact Or.inr (List.mem_cons_of_mem first added)

theorem add_all_capacity (log : ErrorLog) (records : List ErrorRecord) :
    (log.addAll records).capacity = log.capacity := by
  induction records generalizing log with
  | nil => rfl
  | cons record later ih => exact ih (log.add record)

theorem newest_kept (log : ErrorLog) (last : ErrorRecord) (room : log.capacity ≠ some 0) :
    (log.add last).records.head? = some last := by
  unfold ErrorLog.add
  dsimp only
  split
  · rename_i capacity limited
    cases capacity with
    | zero => exact absurd limited room
    | succ more => rfl
  · rfl

/-! Records that a run goes on behind. -/

def AllRecoverable (records : List ErrorRecord) : Prop :=
  ∀ record ∈ records, record.recoverable = true

theorem recoverable_nothing : AllRecoverable [] := by
  intro record member
  cases member

theorem recoverable_append {first later : List ErrorRecord} (before : AllRecoverable first)
    (behind : AllRecoverable later) : AllRecoverable (first ++ later) := by
  intro record member
  rcases List.mem_append.mp member with early | late
  · exact before record early
  · exact behind record late

theorem recoverable_single {record : ErrorRecord} (mild : record.recoverable = true) :
    AllRecoverable [record] := by
  intro other member
  rw [List.mem_singleton.mp member]
  exact mild

theorem recoverable_concat {findings : List Stylesheet.Findings}
    (mild : ∀ finding ∈ findings, AllRecoverable finding.errors) :
    AllRecoverable (Stylesheet.Findings.concat findings).errors := by
  intro record member
  obtain ⟨finding, among, inside⟩ := List.mem_flatMap.mp member
  exact mild finding among record inside

theorem selector_findings_recoverable (file : String) (position : Text.Position)
    (text : List Char) :
    AllRecoverable (Stylesheet.selectorFindings file position text).errors := by
  unfold Stylesheet.selectorFindings
  split
  · apply recoverable_concat
    intro finding member
    obtain ⟨reference, _, rfl⟩ := List.mem_map.mp member
    unfold Stylesheet.referenceFindings
    split
    · exact recoverable_nothing
    · exact recoverable_nothing
  · exact recoverable_single rfl

theorem stylesheet_recoverable (source : List Char) (file : String) :
    AllRecoverable (Stylesheet.extractSelectors source file).errors := by
  have found : AllRecoverable (Stylesheet.Findings.concat
      ((Stylesheet.scanRules (Stylesheet.usesPreprocessor file) source).rules.map
        (Stylesheet.ruleFindings file))).errors := by
    apply recoverable_concat
    intro finding member
    obtain ⟨rule, _, rfl⟩ := List.mem_map.mp member
    apply recoverable_concat
    intro finding member
    obtain ⟨text, _, rfl⟩ := List.mem_map.mp member
    exact selector_findings_recoverable file rule.position text
  unfold Stylesheet.extractSelectors
  split
  · exact recoverable_nothing
  · split
    · exact recoverable_nothing
    · dsimp only
      split
      · exact found
      · exact found

theorem element_recoverable (parse : Markup.ModuleParser) (source : List Char) (file : String) :
    AllRecoverable (Markup.elementUsage parse source file).errors := by
  unfold Markup.elementUsage
  split
  · exact recoverable_nothing
  · dsimp only
    split
    · exact recoverable_nothing
    · exact recoverable_single rfl

section

variable {State Item : Type}

theorem component_recoverable (read : Storage.Reader State) (limit : Int) (state : State)
    (component : Markup.Component) :
    AllRecoverable (component.usage read limit state).errors := by
  unfold Markup.Component.usage
  split
  · exact recoverable_nothing
  · unfold Markup.externalUsage
    dsimp only
    split
    · exact recoverable_nothing
    · exact recoverable_single rfl
    · exact recoverable_nothing
  · exact recoverable_nothing

theorem components_recoverable (read : Storage.Reader State) (limit : Int) (state : State)
    (components : List Markup.Component) :
    AllRecoverable (Markup.componentsUsage read limit state components).errors := by
  induction components generalizing state with
  | nil => exact recoverable_nothing
  | cons component components ih =>
      have here := component_recoverable read limit state component
      unfold Markup.componentsUsage
      dsimp only
      split
      · exact here
      · exact recoverable_append here (ih _)

theorem decorated_recoverable (parse : Markup.ModuleParser) (read : Storage.Reader State)
    (limit : Int) (state : State) (source : List Char) (file : String) :
    AllRecoverable (Markup.decoratedUsage parse read limit state source file).errors := by
  unfold Markup.decoratedUsage
  split
  · exact recoverable_nothing
  · split
    · exact recoverable_nothing
    · exact components_recoverable read limit state _

/-- Whatever such a treatment finds wrong in a file does not end the run. -/
def Treatment.Mild (treatment : Treatment State Item) : Prop :=
  ∀ state source file, AllRecoverable (treatment.extract state source file).errors

theorem file_report_recoverable (read : Storage.Reader State) {treatment : Treatment State Item}
    (mild : treatment.Mild) (state : State) (path : String) :
    AllRecoverable (fileReport read treatment state path).errors := by
  unfold fileReport
  dsimp only
  split
  · exact recoverable_single rfl
  · exact recoverable_nothing
  · rename_i source _
    split
    · exact recoverable_nothing
    · have inside := mild (read state path treatment.limit).2 source path
      unfold extractionReport
      split
      · exact inside
      · exact recoverable_append inside (recoverable_single rfl)
      · exact inside

theorem and_then_recoverable {Found Later : Type} {first : PartReport State Found}
    {later : Found → State → PartReport State Later} (before : AllRecoverable first.errors)
    (behind : ∀ found state, AllRecoverable (later found state).errors) :
    AllRecoverable (first.andThen later).errors := by
  unfold PartReport.andThen
  split
  · exact before
  · exact recoverable_append before (behind _ _)

theorem files_report_recoverable (read : Storage.Reader State) {treatment : Treatment State Item}
    (mild : treatment.Mild) (state : State) (paths : List String) :
    AllRecoverable (filesReport read treatment state paths).errors := by
  induction paths generalizing state with
  | nil => exact recoverable_nothing
  | cons path paths ih =>
      apply and_then_recoverable (file_report_recoverable read mild state path)
      intro items after
      exact ih after

/-- Reading files adds recoverable records only, however far it gets. -/
theorem analysis_report_recoverable (parse : Markup.ModuleParser) (read : Storage.Reader State)
    (config : Config) (work : Workload) (state : State) :
    AllRecoverable (analysisReport parse read config work state).errors := by
  have sheets : (stylesheetTreatment config : Treatment State Selector).Mild :=
    fun _ source file => stylesheet_recoverable source file
  have elements : (elementTreatment parse config : Treatment State UsedName).Mild :=
    fun _ source file => element_recoverable parse source file
  have decorated : (decoratorTreatment parse read config).Mild :=
    fun state source file => decorated_recoverable parse read _ state source file
  apply and_then_recoverable recoverable_nothing
  intro _ state
  apply and_then_recoverable (files_report_recoverable read sheets state _)
  intro _ state
  apply and_then_recoverable recoverable_nothing
  intro _ state
  apply and_then_recoverable (files_report_recoverable read elements state _)
  intro _ state
  apply and_then_recoverable (files_report_recoverable read decorated state _)
  intro _ state
  exact recoverable_nothing

end

/-! What each ending leaves. -/

section

variable {State : Type}

namespace Ending

/-- The host's state at the end. -/
def state : Ending State → State
  | .refused _ after => after
  | .unlisted _ after => after
  | .short _ _ after => after
  | .analyzed report => report.state

def early : Ending State → List ErrorRecord
  | .analyzed report => report.errors
  | _ => []

def fatal? : Ending State → Option ErrorRecord
  | .refused fault _ => some ⟨.configuration, fault.message, none, none, false⟩
  | .unlisted message _ => some ⟨.fileAccess, discoveryMessage, none, some message, false⟩
  | .short _ _ _ => none
  | .analyzed report =>
      match report.outcome with
      | .error message => some ⟨.general, breakdownMessage, none, some message, false⟩
      | .ok _ => none

def isShort : Ending State → Bool
  | .short _ _ _ => true
  | _ => false

end Ending

theorem ending_early_recoverable (host : Host State) (options : Options) (root : String)
    (state : State) : AllRecoverable (ending host options root state).early := by
  unfold ending
  split
  · exact recoverable_nothing
  · split
    · exact recoverable_nothing
    · split
      · exact recoverable_nothing
      · split
        · exact recoverable_nothing
        · exact analysis_report_recoverable host.parse host.read _ _ _

theorem fatal_unrecoverable {theEnd : Ending State} {record : ErrorRecord}
    (last : theEnd.fatal? = some record) : record.recoverable = false := by
  cases theEnd with
  | refused fault after => cases last; rfl
  | unlisted message after => cases last; rfl
  | short found minimum after => cases last
  | analyzed report =>
      obtain ⟨outcome, errors, notes, journal, after⟩ := report
      cases outcome with
      | error message => cases last; rfl
      | ok found => cases last

structure Result.Bare (result : Result) : Prop where
  selectors : result.selectors = []
  used : result.used = []
  unused : result.unused = []
  diagnostics : result.diagnostics = []

def Result.closingEvent (result : Result) : Event :=
  match result.status with
  | .completed => .completed result.root result.selectors.length result.unused.length
  | .skipped => .skipped result.root (result.skipReason.getD "")
  | .aborted => .aborted result.root ((result.errors.records.head?.map ErrorRecord.message).getD "")

structure Ending.Shown (theEnd : Ending State) (root : String) (generation : Nat)
    (start : Progress State) (outcome : Outcome State) : Prop where
  root : outcome.result.root = root
  generation : outcome.result.generation = generation
  errors : outcome.result.errors = start.errors.addAll (theEnd.early ++ theEnd.fatal?.toList)
  aborted_iff : outcome.result.status = .aborted ↔ theEnd.fatal?.isSome = true
  skipped_iff : outcome.result.status = .skipped ↔ theEnd.isShort = true
  bare : outcome.result.status ≠ .completed → outcome.result.Bare
  uncounted : outcome.result.status = .skipped → outcome.result.counts = start.counts
  unused : outcome.result.unused = findUnused outcome.result.selectors outcome.result.used
  events : ∃ notes : List FileNote, outcome.events =
    start.events ++ notes.map FileNote.event ++ [outcome.result.closingEvent]
  state : outcome.state = theEnd.state

theorem abort_shown (root : String) (generation : Nat) {start before : Progress State}
    {theEnd : Ending State} {kind : ErrorKind} {message : String} {details : Option String}
    {notes : List FileNote} (room : before.errors.capacity ≠ some 0)
    (errors : before.errors = start.errors.addAll theEnd.early)
    (events : before.events = start.events ++ notes.map FileNote.event)
    (state : before.state = theEnd.state)
    (fatal : theEnd.fatal? = some ⟨kind, message, none, details, false⟩) :
    theEnd.Shown root generation start (abort before root generation kind message details) := by
  have long : theEnd.isShort = false := by
    cases theEnd with
    | short found minimum after => cases fatal
    | refused | unlisted | analyzed => rfl
  have newest := newest_kept before.errors ⟨kind, message, none, details, false⟩ room
  refine ⟨rfl, rfl, ?_, ?_, ?_, ?_, ?_, rfl, ⟨notes, ?_⟩, state⟩
  · show before.errors.add _ = _
    rw [errors, fatal]
    simp [ErrorLog.addAll]
  · rw [fatal]
    exact iff_of_true rfl rfl
  · rw [long]
    exact iff_of_false (by rintro ⟨⟩) (by rintro ⟨⟩)
  · intro _
    exact ⟨rfl, rfl, rfl, rfl⟩
  · intro skipped
    cases skipped
  · show before.events ++ [.aborted root message] = _
    rw [events]
    congr 2
    show Event.aborted root message = Event.aborted root
      (((before.errors.add ⟨kind, message, none, details, false⟩).records.head?.map
        ErrorRecord.message).getD "")
    rw [newest]
    rfl

theorem analyzed_shown (root : String) (generation : Nat) (start : Progress State)
    (report : PartReport State (List Selector × List UsedName))
    (room : start.errors.capacity ≠ some 0) :
    (Ending.analyzed report).Shown root generation start
      (report.conclusion root generation start) := by
  obtain ⟨outcome, errors, notes, journal, after⟩ := report
  cases outcome with
  | error message =>
      have kept := add_all_capacity start.errors errors
      apply abort_shown root generation
      · rw [← kept] at room
        exact room
      · rfl
      · exact rfl
      · rfl
      · rfl
  | ok found =>
      refine ⟨rfl, rfl, ?_, ?_, ?_, ?_, ?_, rfl, ⟨notes, rfl⟩, rfl⟩
      · show start.errors.addAll errors = start.errors.addAll (errors ++ [])
        rw [List.append_nil]
      · exact iff_of_false (by rintro ⟨⟩) (by rintro ⟨⟩)
      · exact iff_of_false (by rintro ⟨⟩) (by rintro ⟨⟩)
      · intro incomplete
        exact absurd rfl incomplete
      · intro skipped
        cases skipped

theorem ending_shown (root : String) (generation : Nat) (start : Progress State)
    (theEnd : Ending State) (room : start.errors.capacity ≠ some 0) :
    theEnd.Shown root generation start (theEnd.outcome root generation start) := by
  have nothing : start.events = start.events ++ ([] : List FileNote).map FileNote.event := by
    rw [List.map_nil, List.append_nil]
  cases theEnd with
  | refused fault after => exact abort_shown root generation room rfl nothing rfl rfl
  | unlisted message after => exact abort_shown root generation room rfl nothing rfl rfl
  | short found minimum after =>
      refine ⟨rfl, rfl, rfl, ?_, ?_, ?_, ?_, rfl, ⟨[], ?_⟩, rfl⟩
      · exact iff_of_false (by rintro ⟨⟩) (by rintro ⟨⟩)
      · exact iff_of_true rfl rfl
      · intro _
        exact ⟨rfl, rfl, rfl, rfl⟩
      · intro _
        rfl
      · rw [← nothing]
        rfl
  | analyzed report => exact analyzed_shown root generation start report room

/-! What has been asked for where a run ends. -/

/-- Nothing behind invalid options; up to the listing that failed; only the two listings where there
are too few style sheets; and else up to the first reading that breaks down. -/
def Ending.RequestsTell (options : Options) : Ending (State × List Request) → Prop
  | .refused fault after => validate options = .error fault ∧ after.2 = []
  | .unlisted message after =>
      (∃ config, validate options = .ok config) ∧ (after.2 = [.listing (.error message)] ∨
        ∃ stylesheets, after.2 = [.listing (.ok stylesheets), .listing (.error message)])
  | .short _ _ after =>
      ∃ config stylesheets components, validate options = .ok config ∧
        after.2 = [.listing (.ok stylesheets), .listing (.ok components)] ∧
        stylesheets.length < config.minFilesForAnalysis
  | .analyzed report =>
      ∃ config stylesheets components readings, validate options = .ok config ∧
        report.state.2 = .listing (.ok stylesheets) :: .listing (.ok components) :: readings ∧
        ¬ stylesheets.length < config.minFilesForAnalysis ∧
        readings.any Request.failed = brokeDown report.outcome

theorem any_workload_wanted (host : Host State) (config : Config) (work : Workload) :
    WorkloadWanted (fun _ => True) host config work :=
  ⟨fun _ _ => trivial, fun _ _ => trivial, fun _ _ => trivial,
    fun _ _ _ _ _ _ _ _ _ => trivial⟩

theorem ending_requests (host : Host State) (options : Options) (root : String) (state : State) :
    (ending host.traced options root (state, [])).RequestsTell options := by
  unfold ending
  cases checked : validate options with
  | error fault => exact ⟨checked, rfl⟩
  | ok config =>
      dsimp only [Host.traced]
      generalize host.discover state root config.includeFileTypes config.excludePatterns = found
      obtain ⟨sheets, between⟩ := found
      cases sheets with
      | error message => exact ⟨⟨config, checked⟩, Or.inl rfl⟩
      | ok stylesheets =>
          dsimp only
          generalize host.discover between root config.componentFileTypes
            config.excludePatterns = found
          obtain ⟨modules, after⟩ := found
          cases modules with
          | error message => exact ⟨⟨config, checked⟩, Or.inr ⟨stylesheets, rfl⟩⟩
          | ok components =>
              dsimp only
              split
              · rename_i few
                exact ⟨config, stylesheets, components, checked, rfl, few⟩
              · rename_i enough
                obtain ⟨readings, trace, _, broken⟩ := analysis_report_asked host config
                  (after, [.listing (.ok stylesheets), .listing (.ok components)])
                  (any_workload_wanted host config (workload config stylesheets components))
                exact ⟨config, stylesheets, components, readings, checked, trace, enough, broken⟩

theorem fatal_iff_failed {options : Options} {theEnd : Ending (State × List Request)}
    (told : theEnd.RequestsTell options) :
    theEnd.fatal?.isSome = true ↔
      (∃ fault, validate options = .error fault) ∨
        ∃ request ∈ theEnd.state.2, request.failed = true := by
  cases theEnd with
  | refused fault after => exact iff_of_true rfl (Or.inl ⟨fault, told.1⟩)
  | unlisted message after =>
      refine iff_of_true rfl (Or.inr ⟨.listing (.error message), ?_, rfl⟩)
      rcases told.2 with trace | ⟨stylesheets, trace⟩
      · simp [Ending.state, trace]
      · simp [Ending.state, trace]
  | short found minimum after =>
      obtain ⟨config, stylesheets, components, valid, trace, _⟩ := told
      apply iff_of_false (by rintro ⟨⟩)
      rintro (⟨fault, invalid⟩ | failed)
      · rw [valid] at invalid
        cases invalid
      · rw [← List.any_eq_true, Ending.state, trace] at failed
        cases failed
  | analyzed report =>
      obtain ⟨config, stylesheets, components, readings, valid, trace, _, broken⟩ := told
      have same : (Ending.analyzed report).fatal?.isSome = brokeDown report.outcome := by
        obtain ⟨outcome, errors, notes, journal, after⟩ := report
        cases outcome <;> rfl
      have valid' : ¬ ∃ fault, validate options = .error fault := by
        rintro ⟨fault, invalid⟩
        rw [valid] at invalid
        cases invalid
      rw [same, ← broken, or_iff_right valid', ← List.any_eq_true, Ending.state, trace]
      rfl

theorem short_iff_few {options : Options} {theEnd : Ending (State × List Request)}
    (told : theEnd.RequestsTell options) :
    theEnd.isShort = true ↔
      ∃ config stylesheets components readings, validate options = .ok config ∧
        theEnd.state.2 = .listing (.ok stylesheets) :: .listing (.ok components) :: readings ∧
        stylesheets.length < config.minFilesForAnalysis := by
  cases theEnd with
  | refused fault after =>
      apply iff_of_false (by rintro ⟨⟩)
      rintro ⟨config, stylesheets, components, readings, valid, _⟩
      rw [told.1] at valid
      cases valid
  | unlisted message after =>
      apply iff_of_false (by rintro ⟨⟩)
      rintro ⟨config, stylesheets, components, readings, valid, trace, few⟩
      rcases told.2 with failed | ⟨others, failed⟩
      · rw [Ending.state, failed] at trace
        cases trace
      · rw [Ending.state, failed] at trace
        cases trace
  | short found minimum after =>
      obtain ⟨config, stylesheets, components, valid, trace, few⟩ := told
      exact iff_of_true rfl ⟨config, stylesheets, components, [], valid, trace, few⟩
  | analyzed report =>
      obtain ⟨config, stylesheets, components, readings, valid, trace, enough, _⟩ := told
      apply iff_of_false (by rintro ⟨⟩)
      rintro ⟨other, sheets, modules, more, alike, shape, few⟩
      have config_eq : config = other := Except.ok.inj (valid.symm.trans alike)
      rw [Ending.state, trace] at shape
      injection shape with first
      injection first with first
      injection first with first
      rw [config_eq, first] at enough
      exact enough few

theorem refused_unread {options : Options} {theEnd : Ending (State × List Request)}
    {fault : ConfigFault} (told : theEnd.RequestsTell options)
    (invalid : validate options = .error fault) : theEnd.state.2 = [] := by
  cases theEnd with
  | refused fault after => exact told.2
  | unlisted message after =>
      obtain ⟨⟨config, valid⟩, _⟩ := told
      rw [invalid] at valid
      cases valid
  | short found minimum after =>
      obtain ⟨config, _, _, valid, _⟩ := told
      rw [invalid] at valid
      cases valid
  | analyzed report =>
      obtain ⟨config, _, _, _, valid, _⟩ := told
      rw [invalid] at valid
      cases valid

theorem short_unread {options : Options} {theEnd : Ending (State × List Request)}
    (told : theEnd.RequestsTell options) (short : theEnd.isShort = true) :
    ∀ request ∈ theEnd.state.2, ∃ answer, request = .listing answer := by
  cases theEnd with
  | short found minimum after =>
      obtain ⟨config, stylesheets, components, _, trace, _⟩ := told
      rw [Ending.state, trace]
      intro request member
      rcases List.mem_cons.mp member with first | later
      · exact ⟨_, first⟩
      · exact ⟨_, List.mem_singleton.mp later⟩
  | refused | unlisted | analyzed => cases short

/-! Runs. -/

/-- The records that a run ever logs, oldest first: those kept by a log of no limit. -/
def errorHistory (host : Host State) (options : Options) (root : String) (generation : Nat)
    (state : State) : List ErrorRecord :=
  (runLogging (.empty none) host options root generation state).result.errors.records.reverse

theorem run_shown (host : Host State) (options : Options) (root : String) (generation : Nat)
    (state : State) :
    (ending host options root state).Shown root generation
      (Progress.start state (.started root generation))
      (run host options root generation state) := by
  rw [run_eq_run_logging]
  exact ending_shown root generation _ _ (by rintro ⟨⟩)

theorem error_history_eq (host : Host State) (options : Options) (root : String)
    (generation : Nat) (state : State) :
    errorHistory host options root generation state =
      (ending host options root state).early ++
        (ending host options root state).fatal?.toList := by
  have shown := ending_shown root generation
    { Progress.start state (.started root generation) with errors := .empty none }
    (ending host options root state) (by rintro ⟨⟩)
  unfold errorHistory runLogging
  rw [shown.errors, unlimited_records _ _ rfl]
  simp [ErrorLog.empty]

theorem requests_eq (host : Host State) (options : Options) (root : String) (generation : Nat)
    (state : State) :
    requestsOf host options root generation state =
      (ending host.traced options root (state, [])).state.2 :=
  congrArg Prod.snd (run_shown host.traced options root generation (state, [])).state

theorem run_traced_result (host : Host State) (options : Options) (root : String)
    (generation : Nat) (state : State) :
    (run host options root generation state).result =
      (run host.traced options root generation (state, [])).result := by
  rw [run_traced host]
  rfl

/-- A run is aborted by invalid options or by a request that fails, and by nothing else. -/
theorem run_aborted_iff (host : Host State) (options : Options) (root : String)
    (generation : Nat) (state : State) :
    (run host options root generation state).result.status = .aborted ↔
      (∃ fault, validate options = .error fault) ∨
        ∃ request ∈ requestsOf host options root generation state, request.failed = true := by
  rw [run_traced_result, requests_eq]
  exact (run_shown host.traced options root generation (state, [])).aborted_iff.trans
    (fatal_iff_failed (ending_requests host options root state))

theorem history_recoverable (host : Host State) (options : Options) (root : String)
    (generation : Nat) (state : State)
    (kept : (run host options root generation state).result.status ≠ .aborted) :
    AllRecoverable (errorHistory host options root generation state) := by
  have shown := run_shown host options root generation state
  have unbroken : (ending host options root state).fatal? = none := by
    rw [← Option.not_isSome_iff_eq_none, ← shown.aborted_iff]
    exact kept
  rw [error_history_eq, unbroken]
  exact recoverable_append (ending_early_recoverable host options root state) recoverable_nothing

/-- What a run leaves, by its status. -/
structure AllOrNothing (options : Options) (root : String) (generation : Nat)
    (outcome : Outcome State) (history : List ErrorRecord) (requests : List Request) : Prop where
  aborted_iff : outcome.result.status = .aborted ↔
    (∃ fault, validate options = .error fault) ∨ ∃ request ∈ requests, request.failed = true
  skipped_iff : outcome.result.status = .skipped ↔
    ∃ config stylesheets components readings, validate options = .ok config ∧
      requests = .listing (.ok stylesheets) :: .listing (.ok components) :: readings ∧
      stylesheets.length < config.minFilesForAnalysis
  named : outcome.result.root = root ∧ outcome.result.generation = generation
  logged : outcome.result.errors = ErrorLog.fresh.addAll history
  events : ∃ notes : List FileNote, outcome.events =
    .started root generation :: notes.map FileNote.event ++ [outcome.result.closingEvent]
  aborted : outcome.result.status = .aborted →
    outcome.result.Bare ∧ outcome.result.errors.hasFatal = true ∧
    ∃ earlier last, history = earlier ++ [last] ∧ AllRecoverable earlier ∧
      last.recoverable = false ∧ outcome.result.errors.records.head? = some last
  unread : (∃ fault, validate options = .error fault) → requests = []
  skipped : outcome.result.status = .skipped →
    outcome.result.Bare ∧ history = [] ∧ outcome.result.errors = .fresh ∧
    outcome.result.counts = .zero ∧ ∀ request ∈ requests, ∃ answer, request = .listing answer
  completed : outcome.result.status = .completed →
    AllRecoverable history ∧ outcome.result.errors.hasFatal = false ∧
    outcome.result.unused = findUnused outcome.result.selectors outcome.result.used

theorem fatal_logged {log : ErrorLog} {record : ErrorRecord}
    (newest : log.records.head? = some record) (fatal : record.recoverable = false) :
    log.hasFatal = true := by
  apply List.any_eq_true.mpr
  exact ⟨record, List.mem_of_head? newest, by rw [fatal]; rfl⟩

theorem no_fatal_logged {records : List ErrorRecord} (mild : AllRecoverable records) :
    (ErrorLog.fresh.addAll records).hasFatal = false := by
  apply List.any_eq_false.mpr
  intro record member
  rcases kept_was_added _ _ member with before | added
  · cases before
  · rw [mild record added]
    exact Bool.false_ne_true

section

variable {theEnd : Ending State} {root : String} {generation : Nat} {start : Progress State}
  {outcome : Outcome State}

theorem aborted_shows (shown : theEnd.Shown root generation start outcome)
    (unlogged : start.errors = .fresh) (mild : AllRecoverable theEnd.early)
    (aborted : outcome.result.status = .aborted) :
    outcome.result.errors.hasFatal = true ∧
    ∃ earlier last, theEnd.early ++ theEnd.fatal?.toList = earlier ++ [last] ∧
      AllRecoverable earlier ∧ last.recoverable = false ∧
      outcome.result.errors.records.head? = some last := by
  obtain ⟨last, fatal⟩ := Option.isSome_iff_exists.mp (shown.aborted_iff.mp aborted)
  have unrecoverable := fatal_unrecoverable fatal
  have newest : outcome.result.errors.records.head? = some last := by
    have added : outcome.result.errors = (ErrorLog.fresh.addAll theEnd.early).add last := by
      rw [shown.errors, unlogged, fatal]
      simp [ErrorLog.addAll]
    rw [added]
    apply newest_kept
    rw [add_all_capacity]
    decide
  refine ⟨fatal_logged newest unrecoverable, theEnd.early, last, ?_, mild, unrecoverable, newest⟩
  rw [fatal]
  rfl

theorem skipped_shows (shown : theEnd.Shown root generation start outcome)
    (skipped : outcome.result.status = .skipped) :
    theEnd.early ++ theEnd.fatal?.toList = [] ∧ outcome.result.errors = start.errors := by
  have nothing : theEnd.early ++ theEnd.fatal?.toList = [] := by
    have short := shown.skipped_iff.mp skipped
    cases theEnd with
    | short found minimum after => rfl
    | refused | unlisted | analyzed => cases short
  refine ⟨nothing, ?_⟩
  rw [shown.errors, nothing]
  rfl

end

/-- Every run, on every host, with every choice of options, is all or nothing. -/
theorem run_all_or_nothing (host : Host State) (options : Options) (root : String)
    (generation : Nat) (state : State) :
    AllOrNothing options root generation (run host options root generation state)
      (errorHistory host options root generation state)
      (requestsOf host options root generation state) := by
  have shown := run_shown host options root generation state
  have mild := ending_early_recoverable host options root state
  have told := ending_requests host options root state
  have history := error_history_eq host options root generation state
  -- What was asked for is told by the traced run, which has the same result.
  have skipped_iff := (run_shown host.traced options root generation (state, [])).skipped_iff
  rw [← run_traced_result] at skipped_iff
  refine ⟨run_aborted_iff host options root generation state, ?_,
    ⟨shown.root, shown.generation⟩, ?_, shown.events, ?_, ?_, ?_, ?_⟩
  · rw [requests_eq]
    exact skipped_iff.trans (short_iff_few told)
  · rw [history]
    exact shown.errors
  · intro aborted
    rw [history]
    exact ⟨shown.bare (by rw [aborted]; decide), aborted_shows shown rfl mild aborted⟩
  · rintro ⟨fault, invalid⟩
    rw [requests_eq]
    exact refused_unread told invalid
  · intro skipped
    obtain ⟨unlogged, fresh⟩ := skipped_shows shown skipped
    rw [history, requests_eq]
    exact ⟨shown.bare (by rw [skipped]; decide), unlogged, fresh, shown.uncounted skipped,
      short_unread told (skipped_iff.mp skipped)⟩
  · intro completed
    have recoverable := history_recoverable host options root generation state
      (by rw [completed]; decide)
    refine ⟨recoverable, ?_, shown.unused⟩
    rw [shown.errors]
    rw [history] at recoverable
    exact no_fatal_logged recoverable

end

end SelectorAudit.Analysis
