import SelectorAudit.Proofs.Analysis.SessionHistory

/-!
# Concurrent callers of a session

Any number of callers share a session, its sink and the lock that its runs take. A caller takes a
number, waits for the lock, analyses, compares its number with the counter, publishes if they are
equal, and gives the lock back; between any two of these steps other callers may take theirs, and
the session may be invalidated. So a run can be superseded after it has compared its number and
before it publishes. It is still published in its turn: what has been published before has a smaller
number, and whoever superseded it waits for the lock.
-/

namespace SelectorAudit.Analysis

set_option autoImplicit false

open Report Settings

/-- How far a caller is with its run. -/
inductive Phase where
  | idle
  | waiting (number : Nat)
  | running (number : Nat)
  | analyzed (number : Nat) (result : Result)
  | current (number : Nat) (result : Result)
  | settled

namespace Phase

/-- Whether the lock is held. -/
def holds : Phase → Bool
  | .idle => false
  | .waiting _ => false
  | _ => true

/-- The number of a run whose findings are neither published nor dropped. -/
def number? : Phase → Option Nat
  | .waiting number => some number
  | .running number => some number
  | .analyzed number _ => some number
  | .current number _ => some number
  | _ => none

def unfinished? : Phase → Option Nat
  | .waiting number => some number
  | .running number => some number
  | _ => none

/-- The number and the result of a run whose findings are neither published nor dropped. -/
def result? : Phase → Option (Nat × Result)
  | .analyzed number result => some (number, result)
  | .current number result => some (number, result)
  | _ => none

end Phase

/-- What the callers share, and how far each of them is. -/
structure Shared (Caller : Type) where
  session : Session
  sink : Sink
  holder : Option Caller
  phase : Caller → Phase

inductive Act (Caller : Type) where
  | request (caller : Caller) (number : Nat)
  | acquire (caller : Caller)
  | finish (caller : Caller) (number : Nat) (result : Result)
  | compare (caller : Caller)
  | publish (caller : Caller) (number : Nat)
  | release (caller : Caller)
  | invalidate

section

variable {Caller : Type} [DecidableEq Caller]

def Shared.move (state : Shared Caller) (caller : Caller) (phase : Phase) : Shared Caller :=
  { state with phase := fun other => if other = caller then phase else state.phase other }

inductive Step : Shared Caller → Act Caller → Shared Caller → Prop where
  | request {state : Shared Caller} {caller : Caller} (idle : state.phase caller = .idle) :
      Step state (.request caller state.session.invalidate.generation)
        { state.move caller (.waiting state.session.invalidate.generation) with
          session := state.session.invalidate }
  | acquire {state : Shared Caller} {caller : Caller} {number : Nat}
      (waits : state.phase caller = .waiting number) (free : state.holder = none) :
      Step state (.acquire caller)
        { state.move caller (.running number) with holder := some caller }
  | finish {state : Shared Caller} {caller : Caller} {number : Nat} {result : Result}
      (runs : state.phase caller = .running number) {Files : Type} (host : Host Files)
      (root : String) (files : Files)
      (found : result = (run host state.session.options root number files).result) :
      Step state (.finish caller number result) (state.move caller (.analyzed number result))
  | confirm {state : Shared Caller} {caller : Caller} {number : Nat} {result : Result}
      (analyzed : state.phase caller = .analyzed number result)
      (latest : number = state.session.generation) :
      Step state (.compare caller) (state.move caller (.current number result))
  | discard {state : Shared Caller} {caller : Caller} {number : Nat} {result : Result}
      (analyzed : state.phase caller = .analyzed number result)
      (superseded : number ≠ state.session.generation) :
      Step state (.compare caller) (state.move caller .settled)
  | publish {state : Shared Caller} {caller : Caller} {number : Nat} {result : Result}
      (current : state.phase caller = .current number result) :
      Step state (.publish caller number)
        { state.move caller .settled with sink := state.sink.publish result.diagnostics }
  | release {state : Shared Caller} {caller : Caller} (settled : state.phase caller = .settled) :
      Step state (.release caller) { state.move caller .idle with holder := none }
  | invalidate {state : Shared Caller} :
      Step state .invalidate { state with session := state.session.invalidate }

/-- Steps one after the other, and the acts on the way. -/
inductive Execution (start : Shared Caller) : List (Act Caller) → Shared Caller → Prop where
  | start : Execution start [] start
  | step {acts : List (Act Caller)} {state next : Shared Caller} {act : Act Caller}
      (before : Execution start acts state) (taken : Step state act next) :
      Execution start (acts ++ [act]) next

/-- Nobody has begun a run. -/
structure Shared.Fresh (state : Shared Caller) : Prop where
  idle : ∀ caller, state.phase caller = .idle
  free : state.holder = none

/-- The numbers of the published runs, in order. -/
def publishedNumbers (acts : List (Act Caller)) : List Nat :=
  acts.filterMap fun act =>
    match act with
    | .publish _ number => some number
    | _ => none

/-! What one step can do. -/

section

variable {state next : Shared Caller} {act : Act Caller} {caller : Caller} {number : Nat}

theorem step_counter (step : Step state act next) :
    state.session.generation ≤ next.session.generation := by
  cases step <;> simp [Shared.move, Session.invalidate]

theorem step_locked (step : Step state act next)
    (locked : ∀ caller, (state.phase caller).holds = true ↔ state.holder = some caller) :
    ∀ caller, (next.phase caller).holds = true ↔ next.holder = some caller := by
  intro other
  have before := locked other
  cases step <;> simp only [Shared.move] <;> grind [Phase.holds]

theorem step_request (step : Step state (.request caller number) next) :
    state.session.generation < number ∧ next.session.generation = number ∧
      (next.phase caller).number? = some number := by
  cases step
  simp [Shared.move, Session.invalidate, Phase.number?]

theorem step_number (step : Step state act next)
    (owed : (next.phase caller).number? = some number) :
    (state.phase caller).number? = some number ∨ act = .request caller number := by
  cases step <;> simp only [Shared.move] at owed <;> grind [Phase.number?]

/-- A number stays with its caller until it is published, or found to be superseded. -/
theorem step_owed (step : Step state act next)
    (owed : (state.phase caller).number? = some number) :
    (next.phase caller).number? = some number ∨ act = .publish caller number ∨
      number ≠ next.session.generation := by
  cases step <;> simp only [Shared.move] <;> grind [Phase.number?]

theorem step_unfinished (step : Step state act next)
    (owed : (next.phase caller).unfinished? = some number) :
    (state.phase caller).unfinished? = some number ∨ act = .request caller number := by
  cases step <;> simp only [Shared.move] at owed <;> grind [Phase.unfinished?]

theorem step_finish {result : Result} (step : Step state (.finish caller number result) next) :
    (state.phase caller).unfinished? = some number ∧ (next.phase caller).unfinished? = none ∧
      result.Pending number := by
  cases step with
  | finish runs host root files found =>
      refine ⟨?_, ?_, ?_⟩
      · rw [runs]
        rfl
      · simp [Shared.move, Phase.unfinished?]
      · rw [found]
        exact run_pending root number host state.session.options files

theorem step_result {result : Result} (step : Step state act next)
    (kept : (next.phase caller).result? = some (number, result)) :
    (state.phase caller).result? = some (number, result) ∨ act = .finish caller number result := by
  cases step <;> simp only [Shared.move] at kept <;> grind [Phase.result?]

theorem step_current {result : Result} (step : Step state act next)
    (current : next.phase caller = .current number result) :
    state.phase caller = .current number result ∨
      act = .compare caller ∧ state.phase caller = .analyzed number result ∧
        number = state.session.generation := by
  cases step <;> simp only [Shared.move] at current <;> grind

theorem step_publish (step : Step state (.publish caller number) next) :
    ∃ result, state.phase caller = .current number result ∧
      next.sink = state.sink.publish result.diagnostics ∧ next.session = state.session ∧
      (next.phase caller).number? = none := by
  cases step with
  | publish current => exact ⟨_, current, rfl, rfl, by simp [Shared.move, Phase.number?]⟩

theorem step_sink (step : Step state act next)
    (other : ∀ caller number, act ≠ .publish caller number) : next.sink = state.sink := by
  cases step with
  | publish current => exact absurd rfl (other _ _)
  | _ => rfl

end

/-! Numbers. -/

structure Numbered (acts : List (Act Caller)) (state : Shared Caller) : Prop where
  owed : ∀ caller number, (state.phase caller).number? = some number →
    number ≤ state.session.generation
  distinct : ∀ first second number, (state.phase first).number? = some number →
    (state.phase second).number? = some number → first = second
  requested : ∀ caller number, .request caller number ∈ acts → number ≤ state.session.generation

section

variable {acts : List (Act Caller)} {state next : Shared Caller} {act : Act Caller}

theorem numbered_step (step : Step state act next) (numbered : Numbered acts state) :
    Numbered (acts ++ [act]) next := by
  have counter := step_counter step
  constructor
  · intro caller number owed
    rcases step_number step owed with before | rfl
    · have bound := numbered.owed caller number before
      omega
    · have taken := step_request step
      omega
  · intro first second number owed owedToo
    rcases step_number step owed with before | rfl
    · rcases step_number step owedToo with beforeToo | rfl
      · exact numbered.distinct first second number before beforeToo
      · have bound := numbered.owed first number before
        have taken := step_request step
        omega
    · rcases step_number step owedToo with beforeToo | same
      · have bound := numbered.owed second number beforeToo
        have taken := step_request step
        omega
      · cases same
        rfl
  · intro caller number member
    rcases List.mem_append.mp member with before | now
    · have bound := numbered.requested caller number before
      omega
    · cases List.mem_singleton.mp now
      have taken := step_request step
      omega

end

/-! Results. -/

theorem unfinished_number {phase : Phase} {number : Nat} (owed : phase.unfinished? = some number) :
    phase.number? = some number := by
  cases phase <;> simp_all [Phase.unfinished?, Phase.number?]

/-- A run has one result, which is noted when it is there. -/
structure Finished (acts : List (Act Caller)) (state : Shared Caller) : Prop where
  noted : ∀ caller number result, (state.phase caller).result? = some (number, result) →
    .finish caller number result ∈ acts
  pending : ∀ caller number result, .finish caller number result ∈ acts →
    number ≤ state.session.generation ∧ result.Pending number
  unfinished : ∀ caller number, (state.phase caller).unfinished? = some number →
    ∀ other result, .finish other number result ∉ acts
  once : ∀ first second number result result', .finish first number result ∈ acts →
    .finish second number result' ∈ acts → result = result'

section

variable {acts : List (Act Caller)} {state next : Shared Caller} {act : Act Caller}

theorem finished_step (step : Step state act next) (numbered : Numbered acts state)
    (finished : Finished acts state) : Finished (acts ++ [act]) next := by
  have counter := step_counter step
  constructor
  · intro caller number result kept
    rcases step_result step kept with before | rfl
    · exact List.mem_append_left _ (finished.noted caller number result before)
    · exact List.mem_append_right _ List.mem_cons_self
  · intro caller number result member
    rcases List.mem_append.mp member with before | now
    · obtain ⟨bound, pending⟩ := finished.pending caller number result before
      exact ⟨Nat.le_trans bound counter, pending⟩
    · cases List.mem_singleton.mp now
      obtain ⟨owed, _, pending⟩ := step_finish step
      have bound := numbered.owed caller number (unfinished_number owed)
      exact ⟨Nat.le_trans bound counter, pending⟩
  · intro caller number owed other result member
    rcases List.mem_append.mp member with before | now
    · rcases step_unfinished step owed with owedBefore | rfl
      · exact finished.unfinished caller number owedBefore other result before
      · have bound := (finished.pending other number result before).1
        have taken := step_request step
        omega
    · cases List.mem_singleton.mp now
      obtain ⟨owedOther, done, _⟩ := step_finish step
      rcases step_unfinished step owed with owedBefore | different
      · have same := numbered.distinct caller other number (unfinished_number owedBefore)
          (unfinished_number owedOther)
        rw [same, done] at owed
        cases owed
      · cases different
  · intro first second number result result' member memberToo
    rcases List.mem_append.mp member with before | now
    · rcases List.mem_append.mp memberToo with beforeToo | nowToo
      · exact finished.once first second number result result' before beforeToo
      · cases List.mem_singleton.mp nowToo
        exact absurd before (finished.unfinished second number (step_finish step).1 first result)
    · cases List.mem_singleton.mp now
      rcases List.mem_append.mp memberToo with beforeToo | nowToo
      · exact absurd beforeToo
          (finished.unfinished first number (step_finish step).1 second result')
      · cases List.mem_singleton.mp nowToo
        rfl

end

/-! Publications. -/

omit [DecidableEq Caller] in
theorem published_by (acts : List (Act Caller)) (caller : Caller) (number : Nat) :
    publishedNumbers (acts ++ [.publish caller number]) = publishedNumbers acts ++ [number] := by
  simp [publishedNumbers]

omit [DecidableEq Caller] in
theorem published_otherwise (acts : List (Act Caller)) {act : Act Caller}
    (other : ∀ caller number, act ≠ .publish caller number) :
    publishedNumbers (acts ++ [act]) = publishedNumbers acts := by
  cases act with
  | publish caller number => exact absurd rfl (other caller number)
  | _ => simp [publishedNumbers]

/-- Nothing is published out of turn, and the last number that was taken is under way or its
findings are what the sink holds. -/
structure Published (acts : List (Act Caller)) (state : Shared Caller) : Prop where
  increasing : (publishedNumbers acts).Pairwise (· < ·)
  known : ∀ number ∈ publishedNumbers acts, number ≤ state.session.generation
  fresh : ∀ caller number, (state.phase caller).number? = some number →
    number ∉ publishedNumbers acts
  foremost : ∀ caller number result, state.phase caller = .current number result →
    ∀ earlier ∈ publishedNumbers acts, earlier < number
  latest : ∀ caller, .request caller state.session.generation ∈ acts →
    (state.phase caller).number? = some state.session.generation ∨
      state.session.generation ∈ publishedNumbers acts ∧
        ∃ result, .finish caller state.session.generation result ∈ acts ∧
          state.sink = ⟨result.diagnostics⟩

theorem pending_published {result : Result} {number : Nat} (sink : Sink)
    (pending : result.Pending number) : sink.publish result.diagnostics = ⟨result.diagnostics⟩ := by
  rw [pending.projected]
  exact publish_proper sink (project_proper result.unused result.counts)

section

variable {acts : List (Act Caller)} {state next : Shared Caller}

/-- The lock keeps others from publishing in between, so a publication comes in its turn even if its
run has been superseded since it compared its number. -/
theorem published_step_publish {caller : Caller} {number : Nat}
    (step : Step state (.publish caller number) next)
    (locked : ∀ caller, (state.phase caller).holds = true ↔ state.holder = some caller)
    (numbered : Numbered acts state) (finished : Finished acts state)
    (published : Published acts state) : Published (acts ++ [.publish caller number]) next := by
  obtain ⟨result, current, sink, session, gone⟩ := step_publish step
  have owed : (state.phase caller).number? = some number := by
    rw [current]
    rfl
  have bound := numbered.owed caller number owed
  have ahead := published.foremost caller number result current
  have noted := finished.noted caller number result (by rw [current]; rfl)
  have unrequested : ∀ other taken, Act.publish caller number ≠ .request other taken := by
    intro other taken same
    cases same
  constructor
  · rw [published_by, List.pairwise_append]
    refine ⟨published.increasing, List.pairwise_singleton _ _, ?_⟩
    intro earlier member last same
    rw [List.mem_singleton.mp same]
    exact ahead earlier member
  · rw [published_by, session]
    exact List.forall_mem_append.mpr
      ⟨published.known, List.forall_mem_singleton.mpr bound⟩
  · intro other taken owedOther
    have before := (step_number step owedOther).resolve_right (unrequested other taken)
    rw [published_by, List.mem_append, List.mem_singleton, not_or]
    refine ⟨published.fresh other taken before, ?_⟩
    rintro rfl
    rw [numbered.distinct other caller taken before owed, gone] at owedOther
    cases owedOther
  · intro other taken result' currentOther
    rcases step_current step currentOther with before | ⟨different, _⟩
    · have holds : state.holder = some other := (locked other).mp (by rw [before]; rfl)
      have holdsToo : state.holder = some caller := (locked caller).mp (by rw [current]; rfl)
      rw [Option.some.inj (holds.symm.trans holdsToo)] at currentOther
      rw [currentOther] at gone
      cases gone
    · cases different
  · intro other member
    rw [session] at member ⊢
    have asked : .request other state.session.generation ∈ acts := by simpa using member
    rcases published.latest other asked with underway | ⟨shown, _⟩
    · rcases step_owed step underway with still | now | superseded
      · exact Or.inl still
      · cases now
        right
        rw [published_by]
        refine ⟨by simp, result, List.mem_append_left _ noted, ?_⟩
        rw [sink]
        exact pending_published state.sink (finished.pending _ _ result noted).2
      · rw [session] at superseded
        exact absurd rfl superseded
    · have before := ahead _ shown
      omega

theorem published_step_other {act : Act Caller} (step : Step state act next)
    (other : ∀ caller number, act ≠ .publish caller number) (numbered : Numbered acts state)
    (published : Published acts state) : Published (acts ++ [act]) next := by
  have counter := step_counter step
  constructor
  · rw [published_otherwise acts other]
    exact published.increasing
  · intro number member
    rw [published_otherwise acts other] at member
    exact Nat.le_trans (published.known number member) counter
  · intro caller number owed member
    rw [published_otherwise acts other] at member
    rcases step_number step owed with before | rfl
    · exact published.fresh caller number before member
    · have bound := published.known number member
      have taken := step_request step
      omega
  · intro caller number result current earlier member
    rw [published_otherwise acts other] at member
    rcases step_current step current with before | ⟨_, analyzed, latest⟩
    · exact published.foremost caller number result before earlier member
    -- A run that has just compared has the counter's number, and no published number exceeds it.
    · have bound := published.known earlier member
      have apart : earlier ≠ number := by
        rintro rfl
        exact published.fresh caller earlier (by rw [analyzed]; rfl) member
      omega
  · intro caller member
    rw [published_otherwise acts other]
    rcases List.mem_append.mp member with before | now
    · have bound := numbered.requested caller _ before
      have still : next.session.generation = state.session.generation := by omega
      rw [still] at before ⊢
      rcases published.latest caller before with underway | ⟨shown, result, noted, held⟩
      · rcases step_owed step underway with owed | now | superseded
        · exact Or.inl owed
        · exact absurd now (other _ _)
        · exact absurd still.symm superseded
      · refine Or.inr ⟨shown, result, List.mem_append_left _ noted, ?_⟩
        rw [step_sink step other, held]
    · cases List.mem_singleton.mp now
      exact Or.inl (step_request step).2.2

end

/-! Executions. -/

/-- What holds behind every execution. -/
structure Lawful (acts : List (Act Caller)) (state : Shared Caller) : Prop where
  locked : ∀ caller, (state.phase caller).holds = true ↔ state.holder = some caller
  numbered : Numbered acts state
  finished : Finished acts state
  published : Published acts state

omit [DecidableEq Caller] in
theorem lawful_start {start : Shared Caller} (fresh : start.Fresh) : Lawful [] start := by
  have nothing : ∀ caller, start.phase caller = .idle := fresh.idle
  constructor
  · intro caller
    simp [nothing, fresh.free, Phase.holds]
  · constructor <;> simp [nothing, Phase.number?]
  · constructor <;> simp [nothing, Phase.result?, Phase.unfinished?]
  · constructor <;> simp [nothing, Phase.number?, publishedNumbers]

theorem lawful_step {acts : List (Act Caller)} {state next : Shared Caller} {act : Act Caller}
    (step : Step state act next) (lawful : Lawful acts state) : Lawful (acts ++ [act]) next := by
  obtain ⟨locked, numbered, finished, published⟩ := lawful
  refine ⟨step_locked step locked, numbered_step step numbered,
    finished_step step numbered finished, ?_⟩
  cases act with
  | publish caller number => exact published_step_publish step locked numbered finished published
  | _ => exact published_step_other step (by rintro _ _ ⟨⟩) numbered published

theorem execution_lawful {start state : Shared Caller} {acts : List (Act Caller)}
    (fresh : start.Fresh) (execution : Execution start acts state) : Lawful acts state := by
  induction execution with
  | start => exact lawful_start fresh
  | step before taken ih => exact lawful_step taken ih

/-- The last request wins, however the steps of its callers are mixed: runs are published in the
order of their numbers, and when every run is through and the counter's number was taken by one of
them, the sink holds the diagnostics of that run. -/
theorem last_request_wins {start state : Shared Caller} {acts : List (Act Caller)}
    (fresh : start.Fresh) (execution : Execution start acts state) :
    (publishedNumbers acts).Pairwise (· < ·) ∧
    ((∀ caller, state.phase caller = .idle ∨ state.phase caller = .settled) →
      ∀ caller, .request caller state.session.generation ∈ acts →
        (∃ result, .finish caller state.session.generation result ∈ acts) ∧
        ∀ other result, .finish other state.session.generation result ∈ acts →
          state.sink = ⟨result.diagnostics⟩ ∧
            result.diagnostics = project result.unused result.counts) := by
  have lawful := execution_lawful fresh execution
  refine ⟨lawful.published.increasing, ?_⟩
  intro through caller asked
  rcases lawful.published.latest caller asked with underway | ⟨_, result, noted, held⟩
  · rcases through caller with idle | settled
    · rw [idle] at underway
      cases underway
    · rw [settled] at underway
      cases underway
  · refine ⟨⟨result, noted⟩, ?_⟩
    intro other result' notedToo
    obtain rfl := lawful.finished.once caller other _ result result' noted notedToo
    exact ⟨held, (lawful.finished.pending caller _ result noted).2.projected⟩

end

/-- Two callers of a new session. -/
def contended : Shared Bool := ⟨.new .defaults, .empty, none, fun _ => .idle⟩

/-- The run with this number on a project of one style sheet. -/
def contendedResult (number : Nat) : Result :=
  (run (sheetHost "/r/a.css" ".a \x7b \x7d".toList) .defaults "/r" number ()).result

/-- The second caller takes its number after the first has compared and before it publishes. -/
def contendedActs : List (Act Bool) :=
  [.request false 1, .acquire false, .finish false 1 (contendedResult 1), .compare false,
    .request true 2, .publish false 1, .release false, .acquire true,
    .finish true 2 (contendedResult 2), .compare true, .publish true 2, .release true]

/-- Both callers are published, and the sink is left to the second. -/
theorem last_request_wins_superseded :
    ∃ state, Execution contended contendedActs state ∧ publishedNumbers contendedActs = [1, 2] ∧
      state.sink = ⟨(contendedResult 2).diagnostics⟩ := by
  have compared := (((Execution.step .start (@Step.request Bool _ contended false rfl)).step
    (@Step.acquire Bool _ _ false 1 rfl rfl)).step
    (@Step.finish Bool _ _ false 1 (contendedResult 1) rfl Unit _ _ () rfl)).step
    (@Step.confirm Bool _ _ false 1 (contendedResult 1) rfl rfl)
  have superseded := ((compared.step (@Step.request Bool _ _ true rfl)).step
    (@Step.publish Bool _ _ false 1 (contendedResult 1) rfl)).step
    (@Step.release Bool _ _ false rfl)
  have through := ((((superseded.step (@Step.acquire Bool _ _ true 2 rfl rfl)).step
    (@Step.finish Bool _ _ true 2 (contendedResult 2) rfl Unit _ _ () rfl)).step
    (@Step.confirm Bool _ _ true 2 (contendedResult 2) rfl rfl)).step
    (@Step.publish Bool _ _ true 2 (contendedResult 2) rfl)).step
    (@Step.release Bool _ _ true rfl)
  have fresh : contended.Fresh := ⟨fun _ => rfl, rfl⟩
  have requested : .request true 2 ∈ contendedActs := by simp [contendedActs]
  have finished : .finish true 2 (contendedResult 2) ∈ contendedActs := by simp [contendedActs]
  have idle := (last_request_wins fresh through).2 (by rintro (_ | _) <;> exact Or.inl rfl)
  exact ⟨_, through, rfl, ((idle true requested).2 true (contendedResult 2) finished).1⟩

section

variable {Caller : Type} [DecidableEq Caller]

/-! Runs of a single caller. -/

def Shared.working (start : Shared Caller) (caller : Caller) (holder : Option Caller)
    (phase : Phase) : Shared Caller :=
  { start.move caller phase with holder := holder }

theorem working_move (start : Shared Caller) (caller : Caller) (holder : Option Caller)
    (first second : Phase) :
    (start.working caller holder first).move caller second =
      start.working caller holder second := by
  unfold Shared.working Shared.move
  congr 1
  funext other
  by_cases same : other = caller <;> simp [same]

theorem working_idle {start : Shared Caller} (fresh : start.Fresh) (caller : Caller) :
    start.working caller none .idle = start := by
  obtain ⟨session, sink, holder, phase⟩ := start
  obtain rfl : holder = none := fresh.free
  unfold Shared.working Shared.move
  dsimp only
  congr 1
  funext other
  by_cases same : other = caller
  · rw [if_pos same]
    exact (fresh.idle other).symm
  · rw [if_neg same]

theorem working_phase (start : Shared Caller) (caller : Caller) (holder : Option Caller)
    (phase : Phase) : (start.working caller holder phase).phase caller = phase := by
  simp [Shared.working, Shared.move]

/-- A run of a single caller from its request to its analysis, with invalidations while it
lasts. -/
theorem working_execution {start : Shared Caller} (fresh : start.Fresh) (caller : Caller)
    (times : Nat) :
    ∃ acts, Execution start acts
        ({ start with session :=
          { start.session with generation := start.session.generation + 1 + times } }.working
            caller (some caller) (.running (start.session.generation + 1))) ∧
      publishedNumbers acts = [] := by
  induction times with
  | zero =>
      have requested := Execution.step .start (.request (fresh.idle caller))
      have acquired := requested.step (.acquire (working_phase _ caller start.holder _) fresh.free)
      have moved := working_move
        { start with session := start.session.invalidate } caller (some caller)
        (.waiting (start.session.generation + 1)) (.running (start.session.generation + 1))
      refine ⟨[.request caller (start.session.generation + 1), .acquire caller], ?_, rfl⟩
      rw [Nat.add_zero]
      exact moved ▸ acquired
  | succ times ih =>
      obtain ⟨acts, before, silent⟩ := ih
      refine ⟨acts ++ [.invalidate], before.step .invalidate, ?_⟩
      rw [published_otherwise acts (by rintro _ _ ⟨⟩), silent]

theorem session_run_options {State : Type} (session : Session) (sink : Sink) (host : Host State)
    (interruptions : Interruptions) (root : String) (files : State) :
    (session.run sink host interruptions root files).session.options = session.options := by
  unfold Session.run
  dsimp only
  split <;> rfl

theorem execution_moves {start base : Shared Caller} {acts : List (Act Caller)} {act : Act Caller}
    {caller : Caller} {holder : Option Caller} {first second : Phase}
    (before : Execution start acts (base.working caller holder first))
    (step : Step (base.working caller holder first) act
      ((base.working caller holder first).move caller second)) :
    Execution start (acts ++ [act]) (base.working caller holder second) := by
  rw [← working_move base caller holder first second]
  exact before.step step

theorem execution_released {start base : Shared Caller} {acts : List (Act Caller)} {caller : Caller}
    (before : Execution start acts (base.working caller (some caller) .settled))
    (idle : ∀ other, base.phase other = .idle) (free : base.holder = none) :
    Execution start (acts ++ [.release caller]) base := by
  have released := before.step (.release (working_phase base caller (some caller) .settled))
  rw [working_move] at released
  rw [← working_idle ⟨idle, free⟩ caller]
  exact released

/-- A run of the session is an execution of one caller, interrupted by invalidations alone. -/
theorem session_run_executes {start : Shared Caller} (fresh : start.Fresh) (caller : Caller)
    {State : Type} (host : Host State) (interruptions : Interruptions) (root : String)
    (files : State) :
    let outcome := start.session.run start.sink host interruptions root files
    ∃ acts, Execution start acts { start with session := outcome.session, sink := outcome.sink } ∧
      publishedNumbers acts =
        if outcome.result.published then [outcome.result.generation] else [] := by
  intro outcome
  let number := start.session.generation + 1
  let result := (start.session.loggedRun host root files).result
  let made := interruptions.during (start.session.pathsRead host root files).length
  obtain ⟨counter, held, given⟩ :
      outcome.session.generation = number + made ∧
      outcome.sink = (if made = 0 then start.sink.publish result.diagnostics else start.sink) ∧
      outcome.result = { result with published := decide (made = 0) } :=
    session_run_spec start.session start.sink host interruptions root files
  have numbered : result.generation = number :=
    (run_pending root number host.logged start.session.options (files, [])).numbered
  have session : outcome.session = ⟨start.session.options, number + made⟩ := by
    rw [← counter, ← session_run_options start.session start.sink host interruptions root files]
  obtain ⟨acts, running, silent⟩ := working_execution fresh caller made
  let base : Shared Caller := { start with session := ⟨start.session.options, number + made⟩ }
  have finished : Execution start (acts ++ [.finish caller number result])
      (base.working caller (some caller) (.analyzed number result)) :=
    execution_moves running (.finish (working_phase _ caller _ _) host.logged root (files, []) rfl)
  have quietly : publishedNumbers (acts ++ [.finish caller number result] ++ [.compare caller]) =
      [] := by
    rw [published_otherwise _ (by rintro _ _ ⟨⟩), published_otherwise _ (by rintro _ _ ⟨⟩), silent]
  rw [session, held, given]
  by_cases quiet : made = 0
  · have compared := execution_moves finished
      (.confirm (working_phase _ caller _ _) (by show number = number + made; omega))
    have published := compared.step (.publish (working_phase _ caller _ _))
    rw [working_move] at published
    let final : Shared Caller := { base with sink := start.sink.publish result.diagnostics }
    have released := @execution_released _ _ start final _ caller published fresh.idle fresh.free
    rw [if_pos quiet]
    refine ⟨_, released, ?_⟩
    rw [published_otherwise _ (by rintro _ _ ⟨⟩), published_by, quietly,
      if_pos (decide_eq_true quiet)]
    exact congrArg (· :: []) numbered.symm
  · have compared := execution_moves finished
      (.discard (working_phase _ caller _ _) (by show number ≠ number + made; omega))
    have released := execution_released compared fresh.idle fresh.free
    rw [if_neg quiet]
    refine ⟨_, released, ?_⟩
    rw [published_otherwise _ (by rintro _ _ ⟨⟩), quietly, if_neg (by simp [quiet])]

end

end SelectorAudit.Analysis
