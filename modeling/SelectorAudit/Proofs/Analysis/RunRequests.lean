import SelectorAudit.Proofs.Analysis.HostImage
import SelectorAudit.Proofs.Analysis.RunReport

/-!
# What a run asks its host

A host can keep a trace of what it was asked and what it answered. A run on such a host is the run
on the host itself, and the trace tells which files the run has listed and read. Reading goes on up
to the first request that fails: a part of a run breaks down exactly if one of its own requests has.
-/

namespace SelectorAudit.Analysis

set_option autoImplicit false

open Report Settings

/-- A request to a host, with the answer. -/
inductive Request where
  | listing (answer : Except String (List String))
  | reading (path : String) (answer : Storage.Reading)

namespace Request

def failed : Request → Bool
  | .listing (.error _) => true
  | .reading _ (.breakdown _) => true
  | _ => false

def ReadsSuch {State : Type} (host : Host State) (wanted : String → Prop) : Request → Prop
  | .listing _ => False
  | .reading path answer => wanted path ∧ ∃ state limit, answer = (host.read state path limit).1

end Request

section

variable {State : Type}

def Host.traced (host : Host State) : Host (State × List Request) where
  discover traced root extensions patterns :=
    let found := host.discover traced.1 root extensions patterns
    (found.1, found.2, traced.2 ++ [.listing found.1])
  read traced path limit :=
    let answer := host.read traced.1 path limit
    (answer.1, answer.2, traced.2 ++ [.reading path answer.1])
  parse := host.parse

theorem traced_image (host : Host State) : Host.Image Prod.fst host.traced host := by
  constructor
  · intro state root extensions patterns
    rfl
  · intro state path limit
    rfl
  · rfl

/-- The requests that a run makes, in order. -/
def requestsOf (host : Host State) (options : Options) (root : String) (generation : Nat)
    (state : State) : List Request :=
  (run host.traced options root generation (state, [])).state.2

theorem run_traced (host : Host State) (options : Options) (root : String) (generation : Nat)
    (state : State) :
    run host options root generation state =
      (run host.traced options root generation (state, [])).through Prod.fst :=
  run_through (traced_image host) options root generation (state, [])

/-- Between two states only files of some property are read, and a request has failed or not. -/
def Asked (host : Host State) (wanted : String → Prop) (before after : State × List Request)
    (failed : Bool) : Prop :=
  ∃ made, after.2 = before.2 ++ made ∧ (∀ request ∈ made, request.ReadsSuch host wanted) ∧
    made.any Request.failed = failed

variable {host : Host State} {wanted : String → Prop}

theorem asked_nothing (state : State × List Request) : Asked host wanted state state false := by
  refine ⟨[], ?_, ?_, rfl⟩
  · rw [List.append_nil]
  · intro request member
    cases member

theorem asked_after {before between after : State × List Request} {failed : Bool}
    (first : Asked host wanted before between false)
    (later : Asked host wanted between after failed) :
    Asked host wanted before after failed := by
  obtain ⟨made, firstTrace, firstReads, firstFailed⟩ := first
  obtain ⟨more, laterTrace, laterReads, laterFailed⟩ := later
  refine ⟨made ++ more, ?_, ?_, ?_⟩
  · rw [laterTrace, firstTrace, List.append_assoc]
  · intro request member
    rcases List.mem_append.mp member with early | late
    · exact firstReads request early
    · exact laterReads request late
  · rw [List.any_append, firstFailed, laterFailed, Bool.false_or]

def brokeDown {Fault Found : Type} : Except Fault Found → Bool
  | .error _ => true
  | .ok _ => false

theorem broke_down_map {Fault Found Later : Type} (outcome : Except Fault Found)
    (change : Found → Later) : brokeDown (outcome.map change) = brokeDown outcome := by
  cases outcome <;> rfl

/-! Templates. -/

def UsageAsked (host : Host State) (wanted : String → Prop)
    (before : State × List Request)
    (usage : Markup.ComponentUsage (State × List Request)) : Prop :=
  Asked host wanted before usage.state (brokeDown usage.outcome)

theorem read_asked (host : Host State) (state : State × List Request) {path : String} (limit : Int)
    (right : wanted path) :
    Asked host wanted state (host.traced.read state path limit).2
      (Request.reading path (host.traced.read state path limit).1).failed := by
  refine ⟨[.reading path (host.read state.1 path limit).1], rfl, ?_, ?_⟩
  · intro request member
    rw [List.mem_singleton.mp member]
    exact ⟨right, state.1, limit, rfl⟩
  · exact Bool.or_false _

theorem external_usage_asked (host : Host State) (limit : Int) (state : State × List Request)
    (component : Markup.Component) {url : String} (right : wanted (component.templatePath url)) :
    UsageAsked host wanted state
      (Markup.externalUsage host.traced.read limit state component url) := by
  have asked := read_asked host state limit right
  unfold UsageAsked Markup.externalUsage
  dsimp only
  generalize host.traced.read state (component.templatePath url) limit = answer at asked ⊢
  obtain ⟨reading, after⟩ := answer
  cases reading with
  | text content => exact asked
  | fault fault => exact asked
  | breakdown message => exact asked

def TemplateWanted (wanted : String → Prop) (component : Markup.Component) : Prop :=
  ∀ url, component.templateUrl = some url → wanted (component.templatePath url)

theorem component_usage_asked (host : Host State) (limit : Int) (state : State × List Request)
    {component : Markup.Component} (right : TemplateWanted wanted component) :
    UsageAsked host wanted state (component.usage host.traced.read limit state) := by
  unfold Markup.Component.usage
  split
  · exact asked_nothing state
  · rename_i url inPlace reference
    exact external_usage_asked host limit state component (right url reference)
  · exact asked_nothing state

theorem components_usage_asked (host : Host State) (limit : Int) (state : State × List Request)
    {components : List Markup.Component}
    (right : ∀ component ∈ components, TemplateWanted wanted component) :
    UsageAsked host wanted state
      (Markup.componentsUsage host.traced.read limit state components) := by
  induction components generalizing state with
  | nil => exact asked_nothing state
  | cons component components ih =>
      obtain ⟨here, rest⟩ := List.forall_mem_cons.mp right
      have first := component_usage_asked host limit state here
      have later := ih (component.usage host.traced.read limit state).state rest
      unfold UsageAsked at first later ⊢
      unfold Markup.componentsUsage
      dsimp only
      cases ended : (component.usage host.traced.read limit state).outcome with
      | error message =>
          rw [ended] at first
          dsimp only
          rw [ended]
          exact first
      | ok used =>
          rw [ended] at first
          dsimp only
          rw [broke_down_map]
          exact asked_after first later

theorem decorated_usage_asked (host : Host State) (limit : Int) (state : State × List Request)
    {source : List Char} {file : String}
    (right : ∀ component ∈ (Markup.findComponents host.parse source file).components,
      TemplateWanted wanted component) :
    UsageAsked host wanted state
      (Markup.decoratedUsage host.parse host.traced.read limit state source file) := by
  unfold Markup.decoratedUsage
  split
  · exact asked_nothing state
  · split
    · exact asked_nothing state
    · exact components_usage_asked host limit state right

/-! Files. -/

/-- Whether an extractor gives up the run, and not only its file. -/
def gaveUp {Item : Type} : Except Failure (List Item) → Bool
  | .error (.breakdown _) => true
  | _ => false

def ExtractionAsked {Item : Type} (host : Host State) (wanted : String → Prop)
    (before : State × List Request) (extracted : Extracted (State × List Request) Item) : Prop :=
  Asked host wanted before extracted.state (gaveUp extracted.outcome)

theorem stylesheet_asked (state : State × List Request) (source : List Char) (file : String) :
    ExtractionAsked host wanted state (stylesheetExtractor state source file) := by
  have kept : gaveUp (stylesheetExtractor state source file).outcome = false := by
    unfold stylesheetExtractor
    dsimp only
    cases (Stylesheet.extractSelectors source file).outcome <;> rfl
  unfold ExtractionAsked
  rw [kept]
  exact asked_nothing state

theorem element_asked (state : State × List Request) (source : List Char) (file : String) :
    ExtractionAsked host wanted state (elementExtractor host.parse state source file) :=
  asked_nothing state

theorem decorator_asked (host : Host State) (limit : Int) (state : State × List Request)
    {source : List Char} {file : String}
    (right : ∀ component ∈ (Markup.findComponents host.parse source file).components,
      TemplateWanted wanted component) :
    ExtractionAsked host wanted state
      (decoratorExtractor host.parse host.traced.read limit state source file) := by
  have asked := decorated_usage_asked host limit state right
  unfold ExtractionAsked decoratorExtractor
  unfold UsageAsked at asked
  dsimp only
  cases ended : (Markup.decoratedUsage host.parse host.traced.read limit state source file).outcome with
  | error message =>
      rw [ended] at asked
      exact asked
  | ok used =>
      rw [ended] at asked
      exact asked

def ReportAsked {Found : Type} (host : Host State) (wanted : String → Prop)
    (before : State × List Request) (report : PartReport (State × List Request) Found) : Prop :=
  Asked host wanted before report.state (brokeDown report.outcome)

variable {Item : Type}

/-- Files of one kind and what is extracted from them make no unwanted requests. -/
def PathWanted (wanted : String → Prop) (host : Host State)
    (treatment : Treatment (State × List Request) Item) (path : String) : Prop :=
  wanted path ∧ ∀ state source, (host.traced.read state path treatment.limit).1 = .text source →
    ∀ after, ExtractionAsked host wanted after (treatment.extract after source path)

theorem file_report_asked (host : Host State) (treatment : Treatment (State × List Request) Item)
    (state : State × List Request) {path : String} (right : PathWanted wanted host treatment path) :
    ReportAsked host wanted state (fileReport host.traced.read treatment state path) := by
  obtain ⟨here, inside⟩ := right
  have asked := read_asked host state treatment.limit here
  have extraction := inside state
  unfold ReportAsked fileReport
  dsimp only
  generalize host.traced.read state path treatment.limit = answer at asked extraction ⊢
  obtain ⟨reading, after⟩ := answer
  cases reading with
  | fault fault => exact asked
  | breakdown message => exact asked
  | text source =>
      dsimp only
      split
      · exact asked
      · have extracted := asked_after asked (extraction source rfl after)
        unfold extractionReport
        generalize treatment.extract after source path = answer at extracted ⊢
        obtain ⟨outcome, errors, journal, final⟩ := answer
        obtain (⟨message, details⟩ | message) | items := outcome
        · exact extracted
        · exact extracted
        · exact extracted

theorem noted_asked (lines : Journal) (state : State × List Request) :
    ReportAsked host wanted state (notedReport lines state) :=
  asked_nothing state

theorem and_then_asked {Found Later : Type} {before : State × List Request}
    {first : PartReport (State × List Request) Found}
    {later : Found → State × List Request → PartReport (State × List Request) Later}
    (firstAsked : ReportAsked host wanted before first)
    (laterAsked : ∀ found state, ReportAsked host wanted state (later found state)) :
    ReportAsked host wanted before (first.andThen later) := by
  unfold ReportAsked at firstAsked ⊢
  unfold PartReport.andThen
  cases ended : first.outcome with
  | error message =>
      rw [ended] at firstAsked
      exact firstAsked
  | ok found =>
      rw [ended] at firstAsked
      exact asked_after firstAsked (laterAsked found first.state)

theorem map_asked {Found Later : Type} {before : State × List Request}
    {report : PartReport (State × List Request) Found} (change : Found → Later)
    (asked : ReportAsked host wanted before report) :
    ReportAsked host wanted before (report.map change) := by
  unfold ReportAsked PartReport.map
  rw [broke_down_map]
  exact asked

theorem files_report_asked (host : Host State) (treatment : Treatment (State × List Request) Item)
    (state : State × List Request) {paths : List String}
    (right : ∀ path ∈ paths, PathWanted wanted host treatment path) :
    ReportAsked host wanted state (filesReport host.traced.read treatment state paths) := by
  induction paths generalizing state with
  | nil => exact asked_nothing state
  | cons path paths ih =>
      obtain ⟨here, rest⟩ := List.forall_mem_cons.mp right
      apply and_then_asked (file_report_asked host treatment state here)
      intro items after
      exact map_asked _ (ih after rest)

structure WorkloadWanted (wanted : String → Prop) (host : Host State) (config : Config)
    (work : Workload) : Prop where
  stylesheets : ∀ path ∈ work.stylesheets, wanted path
  elementModules : ∀ path ∈ work.elementModules, wanted path
  decoratedModules : ∀ path ∈ work.decoratedModules, wanted path
  templates : ∀ path ∈ work.decoratedModules, ∀ state source,
    (host.read state path config.maxComponentBytes).1 = .text source →
      ∀ component ∈ (Markup.findComponents host.parse source path).components,
        TemplateWanted wanted component

theorem analysis_report_asked (host : Host State) (config : Config) {work : Workload}
    (state : State × List Request) (right : WorkloadWanted wanted host config work) :
    ReportAsked host wanted state
      (analysisReport host.parse host.traced.read config work state) := by
  apply and_then_asked (noted_asked _ state)
  intro _ state
  apply and_then_asked (files_report_asked host _ state ?_)
  · intro selectors state
    apply and_then_asked (noted_asked _ state)
    intro _ state
    apply and_then_asked (files_report_asked host _ state ?_)
    · intro elementNames state
      apply and_then_asked (files_report_asked host _ state ?_)
      · intro decoratedNames state
        exact map_asked _ (noted_asked _ state)
      · intro path member
        refine ⟨right.decoratedModules path member, ?_⟩
        intro before source text after
        exact decorator_asked host _ after (right.templates path member before.1 source text)
    · intro path member
      refine ⟨right.elementModules path member, ?_⟩
      intro before source text after
      exact element_asked after source path
  · intro path member
    refine ⟨right.stylesheets path member, ?_⟩
    intro before source text after
    exact stylesheet_asked after source path

end

end SelectorAudit.Analysis
