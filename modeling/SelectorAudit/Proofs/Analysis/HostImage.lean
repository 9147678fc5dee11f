import SelectorAudit.Analysis.Run

/-!
# Hosts seen through a function

A run asks its host for files and hands the host's state on, but never looks at it. So whenever one
host is the image of another, in that each request commutes with a view of the states, the runs on
both give the same results, events and journals, and the states behind them correspond as well.
-/

namespace SelectorAudit.Analysis

set_option autoImplicit false

open Report Settings

def ReadThrough {First Second : Type} (view : First → Second) (first : Storage.Reader First)
    (second : Storage.Reader Second) : Prop :=
  ∀ (state : First) (path : String) (limit : Int),
    second (view state) path limit = Prod.map id view (first state path limit)

structure Host.Image {First Second : Type} (view : First → Second) (first : Host First)
    (second : Host Second) : Prop where
  discover : ∀ (state : First) (root : String) (extensions patterns : List String),
    second.discover (view state) root extensions patterns =
      Prod.map id view (first.discover state root extensions patterns)
  read : ReadThrough view first.read second.read
  parse : second.parse = first.parse

/-! The parts of a run, with a view in place of the state. -/

section

variable {First Second Item : Type} (view : First → Second)

def usageThrough (usage : Markup.ComponentUsage First) : Markup.ComponentUsage Second :=
  ⟨usage.outcome, usage.errors, usage.journal, view usage.state⟩

def Extracted.through (extracted : Extracted First Item) : Extracted Second Item :=
  ⟨extracted.outcome, extracted.errors, extracted.journal, view extracted.state⟩

def Progress.through (progress : Progress First) : Progress Second :=
  { progress with state := view progress.state }

def Stage.through (stage : Stage First Item) : Stage Second Item :=
  ⟨stage.outcome, stage.progress.through view⟩

def Outcome.through (outcome : Outcome First) : Outcome Second :=
  { outcome with state := view outcome.state }

end

section

variable {First Second Item : Type} {view : First → Second} {first : Storage.Reader First}
  {second : Storage.Reader Second}

theorem external_usage_through (reads : ReadThrough view first second) (limit : Int)
    (state : First) (component : Markup.Component) (url : String) :
    Markup.externalUsage second limit (view state) component url =
      usageThrough view (Markup.externalUsage first limit state component url) := by
  simp only [Markup.externalUsage, reads state]
  rcases first state (component.templatePath url) limit with ⟨reading, after⟩
  cases reading <;> rfl

theorem component_usage_through (reads : ReadThrough view first second) (limit : Int)
    (state : First) (component : Markup.Component) :
    component.usage second limit (view state) =
      usageThrough view (component.usage first limit state) := by
  unfold Markup.Component.usage
  split
  · rfl
  · exact external_usage_through reads limit state component _
  · rfl

theorem components_usage_through (reads : ReadThrough view first second) (limit : Int)
    (state : First) (components : List Markup.Component) :
    Markup.componentsUsage second limit (view state) components =
      usageThrough view (Markup.componentsUsage first limit state components) := by
  induction components generalizing state with
  | nil => rfl
  | cons component components ih =>
      have here := component_usage_through reads limit state component
      have later := ih (component.usage first limit state).state
      simp only [Markup.componentsUsage, here]
      cases found : (component.usage first limit state).outcome with
      | error message => simp [usageThrough, found]
      | ok used =>
          simp only [usageThrough, found] at later ⊢
          rw [later]

theorem decorated_usage_through (parse : Markup.ModuleParser)
    (reads : ReadThrough view first second) (limit : Int) (state : First) (source : List Char)
    (file : String) :
    Markup.decoratedUsage parse second limit (view state) source file =
      usageThrough view (Markup.decoratedUsage parse first limit state source file) := by
  simp only [Markup.decoratedUsage, components_usage_through reads]
  split
  · rfl
  · split <;> rfl

/-- Files of one kind are treated alike on both sides. -/
structure Treatment.Image (view : First → Second) (treatment : Treatment First Item)
    (seen : Treatment Second Item) : Prop where
  kind : seen.kind = treatment.kind
  limit : seen.limit = treatment.limit
  extract : ∀ (state : First) (source : List Char) (file : String),
    seen.extract (view state) source file = (treatment.extract state source file).through view

theorem stylesheet_image (config : Config) :
    Treatment.Image view (stylesheetTreatment config) (stylesheetTreatment config) :=
  ⟨rfl, rfl, fun _ _ _ => rfl⟩

theorem element_image (parse : Markup.ModuleParser) (config : Config) :
    Treatment.Image view (elementTreatment parse config) (elementTreatment parse config) :=
  ⟨rfl, rfl, fun _ _ _ => rfl⟩

theorem decorator_image (parse : Markup.ModuleParser) (reads : ReadThrough view first second)
    (config : Config) :
    Treatment.Image view (decoratorTreatment parse first config)
      (decoratorTreatment parse second config) := by
  refine ⟨rfl, rfl, ?_⟩
  intro state source file
  simp only [decoratorTreatment, decoratorExtractor,
    decorated_usage_through parse reads config.maxComponentBytes state source file]
  rfl

variable {treatment : Treatment First Item} {seen : Treatment Second Item}

theorem extract_from_through (image : Treatment.Image view treatment seen) (path : String)
    (source : List Char) (progress : Progress First) :
    extractFrom seen path source (progress.through view) =
      (extractFrom treatment path source progress).through view := by
  obtain ⟨kind, limit, extract⟩ := seen
  obtain ⟨rfl, rfl, same⟩ := image
  have extracted : extract (view progress.state) source path =
      (treatment.extract progress.state source path).through view := same _ _ _
  simp only [extractFrom, Progress.through, extracted]
  rcases treatment.extract progress.state source path with ⟨outcome, errors, journal, after⟩
  rcases outcome with (⟨message, details⟩ | ⟨message⟩) | items <;> rfl

theorem process_file_through (reads : ReadThrough view first second)
    (image : Treatment.Image view treatment seen) (progress : Progress First) (path : String) :
    processFile second seen (progress.through view) path =
      (processFile first treatment progress path).through view := by
  have reading : second (view progress.state) path seen.limit =
      Prod.map id view (first progress.state path treatment.limit) := by
    rw [image.limit]
    exact reads _ _ _
  have kind := image.kind
  unfold processFile
  simp only [Progress.through, reading]
  rcases first progress.state path treatment.limit with ⟨given, after⟩
  cases given with
  | text source =>
      simp only [Prod.map, id]
      cases Text.isAllBlank source with
      | true =>
          simp only [kind]
          rfl
      | false => exact extract_from_through image path source { progress with state := after }
  | fault fault =>
      simp only [Prod.map, failReading, kind]
      rfl
  | breakdown message => rfl

theorem process_files_through (reads : ReadThrough view first second)
    (image : Treatment.Image view treatment seen) (progress : Progress First)
    (paths : List String) :
    processFiles second seen (progress.through view) paths =
      (processFiles first treatment progress paths).through view := by
  induction paths generalizing progress with
  | nil => rfl
  | cons path paths ih =>
      have here := process_file_through reads image progress path
      have later := ih (processFile first treatment progress path).progress
      simp only [processFiles, here]
      cases found : (processFile first treatment progress path).outcome with
      | error message => simp [Stage.through, found]
      | ok items =>
          simp only [Stage.through, found] at later ⊢
          rw [later]

theorem log_through (progress : Progress First) (line : JournalLine) :
    (progress.through view).log line = (progress.log line).through view := rfl

theorem analyze_through (parse : Markup.ModuleParser) (reads : ReadThrough view first second)
    (config : Config) (work : Workload) (root : String) (generation : Nat)
    (progress : Progress First) :
    analyze parse second config work root generation (progress.through view) =
      (analyze parse first config work root generation progress).through view := by
  have sheetsThrough := process_files_through reads (stylesheet_image config)
    (noteWorkload progress work) work.stylesheets
  have elementsThrough := fun given : Progress First =>
    process_files_through reads (element_image parse config) given work.elementModules
  have decoratedThrough := fun given : Progress First =>
    process_files_through reads (decorator_image parse reads config) given work.decoratedModules
  simp only [analyze]
  rw [show noteWorkload (progress.through view) work =
    (noteWorkload progress work).through view from rfl, sheetsThrough]
  rcases processFiles first (stylesheetTreatment config) (noteWorkload progress work)
    work.stylesheets with ⟨outcome, sheets⟩
  cases outcome with
  | error message => rfl
  | ok selectors =>
      simp only [Stage.through, log_through, elementsThrough]
      rcases processFiles first (elementTreatment parse config) _ work.elementModules with
        ⟨outcome, elements⟩
      cases outcome with
      | error message => rfl
      | ok elementNames =>
          simp only [decoratedThrough, Stage.through]
          rcases processFiles first (decoratorTreatment parse first config) elements
            work.decoratedModules with ⟨outcome, decorated⟩
          cases outcome with
          | error message => rfl
          | ok decoratedNames => rfl

end

theorem run_through {First Second : Type} {view : First → Second} {first : Host First}
    {second : Host Second} (image : Host.Image view first second) (options : Options)
    (root : String) (generation : Nat) (state : First) :
    run second options root generation (view state) =
      (run first options root generation state).through view := by
  unfold run
  cases validate options with
  | error fault => rfl
  | ok config =>
      simp only [image.discover]
      rcases first.discover state root config.includeFileTypes config.excludePatterns with
        ⟨sheets, between⟩
      cases sheets with
      | error message => rfl
      | ok stylesheets =>
          simp only [Prod.map_apply, id, image.discover]
          rcases first.discover between root config.componentFileTypes config.excludePatterns with
            ⟨modules, after⟩
          cases modules with
          | error message => rfl
          | ok components =>
              simp only [Prod.map_apply, id]
              split
              · rfl
              · rw [image.parse]
                exact analyze_through first.parse image.read config _ root generation
                  ⟨after, ErrorLog.fresh, ScanCounts.zero, [.started root generation], []⟩

end SelectorAudit.Analysis
