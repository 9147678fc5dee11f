import SelectorAudit.Analysis.Session
import SelectorAudit.Proofs.Analysis.HostImage
import SelectorAudit.Proofs.Report.Publication

/-!
# Histories of sessions

What happens to one sink over time: runs on any root, during whose reads the session may be
invalidated any number of times, invalidations between runs, new sessions in place of old ones, and
changes to the files. A run is published exactly if nothing was invalidated while it lasted. Then
the sink holds what the run found and nothing else; otherwise the sink is left as it was.

How often a run is interrupted depends on how many files it reads. That number is taken from a host
that keeps a log of its reads and knows nothing of sessions.
-/

namespace SelectorAudit.Analysis

set_option autoImplicit false

open Report Settings

/-! Results before they are published. -/

/-- What a run hands to its session: its number, and as diagnostics the projection of the unused
selectors, of which there are none unless it is completed. -/
structure Result.Pending (result : Result) (generation : Nat) : Prop where
  numbered : result.generation = generation
  unpublished : result.published = false
  projected : result.diagnostics = project result.unused result.counts
  bare : result.status ≠ .completed → result.unused = []

section

variable {State : Type} (progress : Progress State) (root : String) (generation : Nat)

theorem conclude_pending (status : Status) (skipReason : Option String) :
    (conclude progress root generation status skipReason).result.Pending generation :=
  ⟨rfl, rfl, rfl, fun _ => rfl⟩

theorem abort_pending (kind : ErrorKind) (message : String) (details : Option String) :
    (abort progress root generation kind message details).result.Pending generation :=
  conclude_pending _ root generation .aborted none

theorem complete_pending (selectors : List Selector) (used : List UsedName) :
    (complete progress root generation selectors used).result.Pending generation :=
  ⟨rfl, rfl, rfl, fun incomplete => absurd rfl incomplete⟩

theorem analyze_pending (parse : Markup.ModuleParser) (read : Storage.Reader State)
    (config : Config) (work : Workload) :
    (analyze parse read config work root generation progress).result.Pending generation := by
  simp only [analyze]
  split
  · exact abort_pending _ root generation _ _ _
  · split
    · exact abort_pending _ root generation _ _ _
    · split
      · exact abort_pending _ root generation _ _ _
      · exact complete_pending _ root generation _ _

theorem run_pending (host : Host State) (options : Options) (state : State) :
    (run host options root generation state).result.Pending generation := by
  unfold run
  split
  · exact abort_pending _ root generation _ _ _
  · split
    · exact abort_pending _ root generation _ _ _
    · split
      · exact abort_pending _ root generation _ _ _
      · split
        · exact conclude_pending _ root generation _ _
        · exact analyze_pending _ root generation _ _ _ _

end

/-! Reads and interruptions. -/

section

variable {State : Type}

def Host.logged (host : Host State) : Host (State × List String) where
  discover logged root extensions patterns :=
    let found := host.discover logged.1 root extensions patterns
    (found.1, found.2, logged.2)
  read logged path limit :=
    let reading := host.read logged.1 path limit
    (reading.1, reading.2, logged.2 ++ [path])
  parse := host.parse

/-- How often the session is invalidated during the first reads of a run. -/
def Interruptions.during (interruptions : Interruptions) : Nat → Nat
  | 0 => 0
  | reads + 1 => interruptions.during reads + interruptions (reads + 1)

/-- What the log says about the reads made so far and the session's counter. -/
def liveView (interruptions : Interruptions) (generation : Nat) (logged : State × List String) :
    Live State :=
  ⟨logged.1, logged.2.length, generation + interruptions.during logged.2.length⟩

theorem interrupted_image (host : Host State) (interruptions : Interruptions) (generation : Nat) :
    Host.Image (liveView interruptions generation) host.logged
      (host.interrupted interruptions) := by
  constructor
  · intro logged root extensions patterns
    rfl
  · intro logged path limit
    simp [Host.interrupted, Host.logged, liveView, Interruptions.during, Nat.add_assoc]
  · rfl

def Session.loggedRun (session : Session) (host : Host State) (root : String) (state : State) :
    Outcome (State × List String) :=
  Analysis.run host.logged session.options root (session.generation + 1) (state, [])

def Session.pathsRead (session : Session) (host : Host State) (root : String) (state : State) :
    List String :=
  (session.loggedRun host root state).state.2

/-- A run depends on the interruptions only in what becomes of it: the counter moves on by their
number, and the findings are published if there are none. -/
theorem session_run_spec (session : Session) (sink : Sink) (host : Host State)
    (interruptions : Interruptions) (root : String) (state : State) :
    let outcome := session.run sink host interruptions root state
    let result := (session.loggedRun host root state).result
    let made := interruptions.during (session.pathsRead host root state).length
    outcome.session.generation = session.generation + 1 + made ∧
      outcome.sink = (if made = 0 then sink.publish result.diagnostics else sink) ∧
      outcome.result = { result with published := decide (made = 0) } := by
  intro outcome result made
  have observed : Analysis.run (host.interrupted interruptions) session.options root
      (session.generation + 1) ⟨state, 0, session.generation + 1⟩ =
        (session.loggedRun host root state).through
          (liveView interruptions (session.generation + 1)) :=
    run_through (interrupted_image host interruptions (session.generation + 1)) session.options root
      (session.generation + 1) (state, [])
  have unpublished : result.published = false :=
    (run_pending root _ host.logged session.options (state, [])).unpublished
  -- Seen through the log, the counter stands at the number of the run plus the interruptions.
  have counter : ((session.loggedRun host root state).through
      (liveView interruptions (session.generation + 1))).state.generation =
        session.generation + 1 + made := rfl
  have unfolded : outcome = session.run sink host interruptions root state := rfl
  simp only [Session.run, observed, counter] at unfolded
  by_cases quiet : made = 0
  · rw [if_pos (by omega)] at unfolded
    simp [unfolded, quiet, Outcome.through, result]
  · rw [if_neg (by omega)] at unfolded
    have same : { result with published := false } = result := by
      rw [← unpublished]
    simp [unfolded, quiet, Outcome.through, same, result]

end

/-! Worlds and what happens to them. -/

/-- A session, the sink it publishes to and the files it is run on. -/
structure World (State : Type) where
  session : Session
  sink : Sink
  files : State

inductive Operation (State : Type) where
  | run (host : Host State) (interruptions : Interruptions) (root : String)
  | invalidate
  | renew (options : Options)
  | change (edit : State → State)

structure RunRecord (State : Type) where
  before : World State
  invalidations : Nat
  result : Result
  after : World State

/-- Where a sequence of operations leads, and the runs on the way. -/
structure History (State : Type) where
  world : World State
  runs : List (RunRecord State)

section

variable {State : Type}

namespace World

def run (world : World State) (host : Host State) (interruptions : Interruptions)
    (root : String) : RunRecord State :=
  let outcome := world.session.run world.sink host interruptions root world.files
  { before := world
    invalidations := interruptions.during (world.session.pathsRead host root world.files).length
    result := outcome.result
    after := ⟨outcome.session, outcome.sink, outcome.state⟩ }

def perform (world : World State) : Operation State → History State
  | .run host interruptions root =>
      ⟨(world.run host interruptions root).after, [world.run host interruptions root]⟩
  | .invalidate => ⟨{ world with session := world.session.invalidate }, []⟩
  | .renew options => ⟨{ world with session := .new options }, []⟩
  | .change edit => ⟨{ world with files := edit world.files }, []⟩

def execute (world : World State) : List (Operation State) → History State
  | [] => ⟨world, []⟩
  | operation :: later =>
      let first := world.perform operation
      let rest := first.world.execute later
      ⟨rest.world, first.runs ++ rest.runs⟩

end World

def RunRecord.projection (record : RunRecord State) : Sink :=
  ⟨project record.result.unused record.result.counts⟩

/-- The number of a run, what it does to the counter, and when it replaces what the sink holds. -/
structure RunRecord.Faithful (record : RunRecord State) : Prop where
  numbered : record.result.generation = record.before.session.generation + 1
  counted : record.after.session.generation = record.result.generation + record.invalidations
  published_iff : record.result.published = true ↔ record.invalidations = 0
  replaced : record.result.published = true → record.after.sink = record.projection
  /-- A run that is skipped or aborted leaves nothing in the sink. -/
  emptied : record.result.published = true → record.result.status ≠ .completed →
    record.after.sink = .empty
  kept : record.result.published = false → record.after.sink = record.before.sink

theorem run_faithful (world : World State) (host : Host State) (interruptions : Interruptions)
    (root : String) : (world.run host interruptions root).Faithful := by
  let record := world.run host interruptions root
  let found := (world.session.loggedRun host root world.files).result
  have pending : found.Pending (world.session.generation + 1) :=
    run_pending root _ host.logged world.session.options (world.files, [])
  obtain ⟨counter, held, result⟩ :
      record.after.session.generation = world.session.generation + 1 + record.invalidations ∧
      record.after.sink = (if record.invalidations = 0 then world.sink.publish found.diagnostics
        else world.sink) ∧
      record.result = { found with published := decide (record.invalidations = 0) } :=
    session_run_spec world.session world.sink host interruptions root world.files
  have numbered : record.result.generation = world.session.generation + 1 := by
    rw [result]
    exact pending.numbered
  have published_iff : record.result.published = true ↔ record.invalidations = 0 := by
    rw [result]
    exact decide_eq_true_iff
  have replaced : record.result.published = true → record.after.sink = record.projection := by
    intro shown
    rw [held, if_pos (published_iff.mp shown), pending.projected, RunRecord.projection, result]
    exact publish_proper world.sink (project_proper found.unused found.counts)
  refine ⟨numbered, ?_, published_iff, replaced, ?_, ?_⟩
  · rw [numbered]
    exact counter
  · intro shown incomplete
    have nothing : record.result.unused = [] := by
      rw [result] at incomplete ⊢
      exact pending.bare incomplete
    rw [replaced shown, RunRecord.projection, nothing]
    rfl
  · intro hidden
    have disturbed : record.invalidations ≠ 0 := by
      intro quiet
      rw [published_iff.mpr quiet] at hidden
      cases hidden
    rw [held, if_neg disturbed]
    rfl

def lastPublished (runs : List (RunRecord State)) : Option (RunRecord State) :=
  runs.reverse.find? fun record => record.result.published

theorem last_published_append (first later : List (RunRecord State)) :
    lastPublished (first ++ later) = (lastPublished later).or (lastPublished first) := by
  simp [lastPublished, List.find?_append]

theorem perform_sink (world : World State) (operation : Operation State) :
    (world.perform operation).world.sink =
      ((lastPublished (world.perform operation).runs).map RunRecord.projection).getD
        world.sink := by
  cases operation with
  | run host interruptions root =>
      have faithful := run_faithful world host interruptions root
      cases shown : (world.run host interruptions root).result.published with
      | true => simpa [World.perform, lastPublished, shown] using faithful.replaced shown
      | false =>
          have kept : (world.run host interruptions root).after.sink = world.sink :=
            faithful.kept shown
          simpa [World.perform, lastPublished, shown] using kept
  | invalidate | renew | change => rfl

/-- Behind every history the sink holds what the run published last has found. -/
theorem history_sink (world : World State) (operations : List (Operation State)) :
    (world.execute operations).world.sink =
      ((lastPublished (world.execute operations).runs).map RunRecord.projection).getD
        world.sink := by
  induction operations generalizing world with
  | nil => rfl
  | cons operation later ih =>
      rw [World.execute, last_published_append, ih, perform_sink]
      cases lastPublished ((world.perform operation).world.execute later).runs <;> rfl

/-- Whatever happens to a session, each of its runs takes the next number, moves the counter on by
the invalidations made while it lasted, and is published exactly if there were none. A published run
leaves the projection of its unused selectors in the sink; any other leaves the sink alone. -/
theorem history_runs_faithful (world : World State) (operations : List (Operation State)) :
    ∀ record ∈ (world.execute operations).runs, record.Faithful := by
  induction operations generalizing world with
  | nil => simp [World.execute]
  | cons operation later ih =>
      intro record member
      rcases List.mem_append.mp member with now | afterwards
      · cases operation with
        | run host interruptions root =>
            rw [List.mem_singleton.mp now]
            exact run_faithful world host interruptions root
        | invalidate | renew | change => cases now
      · exact ih _ record afterwards

end

def sheetHost (path : String) (text : List Char) : Host Unit where
  discover _ _ extensions _ := (.ok (if extensions.contains ".css" then [path] else []), ())
  read _ _ _ := (.text text, ())
  parse := Markup.parseModule

theorem history_runs_faithful_disturbed :
    let host := sheetHost "/r/a.css" ".a \x7b \x7d".toList
    let start : World Unit := ⟨.new .defaults, .empty, ()⟩
    let quiet := start.run host .none "/r"
    let moved : World Unit := { quiet.after with session := quiet.after.session.invalidate }
    let disturbed := moved.run host (.before 1) "/r"
    quiet.result.unused.length = 1 ∧
      quiet.after.sink = quiet.projection ∧
      disturbed.result.generation = 3 ∧ disturbed.after.session.generation = 4 ∧
      disturbed.result.published = false ∧ disturbed.after.sink = quiet.after.sink := by
  intro host start quiet moved disturbed
  have unused : quiet.result.unused.length = 1 := by decide +kernel
  have undisturbed : quiet.invalidations = 0 := by decide +kernel
  have once : disturbed.invalidations = 1 := by decide +kernel
  have taken : moved.session.generation = 2 := by decide +kernel
  have runs : (start.execute [.run host .none "/r", .invalidate,
      .run host (.before 1) "/r"]).runs = [quiet, disturbed] := rfl
  have faithful := history_runs_faithful start
    [.run host .none "/r", .invalidate, .run host (.before 1) "/r"]
  rw [runs] at faithful
  have first : quiet.Faithful := faithful quiet (by simp)
  have second : disturbed.Faithful := faithful disturbed (by simp)
  have number : disturbed.result.generation = 3 := by
    rw [second.numbered]
    exact congrArg (· + 1) taken
  have hidden : disturbed.result.published = false := by
    rw [← Bool.not_eq_true, second.published_iff, once]
    decide
  refine ⟨unused, first.replaced (first.published_iff.mpr undisturbed), number, ?_, hidden,
    second.kept hidden⟩
  rw [second.counted, number, once]

end SelectorAudit.Analysis
