import SelectorAudit.Analysis.Run
import SelectorAudit.Markup.Program
import SelectorAudit.Storage.Discovery

/-!
# Sessions

A session runs analyses against one sink. Every run takes a number, its generation, from a counter.
The findings of a run reach the sink only if the counter still stands at that number when the run
ends; whoever moves it on in the meantime, even while a file is being read, makes the run obsolete.
-/

namespace SelectorAudit.Analysis

set_option autoImplicit false

open Report Settings

structure Session where
  options : Options
  generation : Nat

def Session.new (options : Options) : Session := ⟨options, 0⟩

/-- Makes every run under way obsolete; the new generation is the session's counter. -/
def Session.invalidate (session : Session) : Session :=
  { session with generation := session.generation + 1 }

/-- The state of a host during a run, with the reads made so far and the session's counter. -/
structure Live (State : Type) where
  state : State
  reads : Nat
  generation : Nat

/-- How often the session is invalidated just before each read of a run, counted from one. -/
abbrev Interruptions := Nat → Nat

/-- The quiet pattern: nothing is invalidated. -/
def Interruptions.none : Interruptions := fun _ => 0

def Interruptions.before (read : Nat) : Interruptions := fun n => if n = read then 1 else 0

section

variable {State : Type}

/-- A host during whose reads the session is invalidated. -/
def Host.interrupted (host : Host State) (interruptions : Interruptions) : Host (Live State) where
  discover live root extensions patterns :=
    let found := host.discover live.state root extensions patterns
    (found.1, { live with state := found.2 })
  read live path limit :=
    let reading := host.read live.state path limit
    (reading.1,
      { state := reading.2
        reads := live.reads + 1
        generation := live.generation + interruptions (live.reads + 1) })
  parse := host.parse

structure SessionOutcome (State : Type) where
  session : Session
  sink : Sink
  result : Result
  events : List Event
  journal : Journal
  state : State

/-- Runs an analysis and publishes its findings unless it has become obsolete. -/
def Session.run (session : Session) (sink : Sink) (host : Host State)
    (interruptions : Interruptions) (root : String) (state : State) : SessionOutcome State :=
  let generation := session.generation + 1
  let outcome := Analysis.run (host.interrupted interruptions) session.options root generation
    ⟨state, 0, generation⟩
  let current := outcome.state.generation
  let after : Session := { session with generation := current }
  if generation = current then
    { session := after
      sink := sink.publish outcome.result.diagnostics
      result := { outcome.result with published := true }
      events := outcome.events
      journal := outcome.journal
      state := outcome.state.state }
  else
    { session := after
      sink := sink
      result := outcome.result
      events := outcome.events
      journal := outcome.journal ++
        [runLine .info ("Discarding results of superseded run " ++ toString generation)]
      state := outcome.state.state }

end

/-- The host that a file tree makes, with a parser; its state is the tree itself. -/
def treeHost (parse : Markup.ModuleParser) : Host Storage.FileTree where
  discover tree root extensions patterns :=
    (.ok (Storage.discover tree root extensions patterns), tree)
  read tree path limit := (tree.read path limit, tree)
  parse := parse

def Host.failingOn {State : Type} (host : Host State) (test : String → Bool) (message : String) :
    Host State :=
  { host with
    read := fun state path limit =>
      if test path then (.breakdown message, state) else host.read state path limit }

def Host.blind {State : Type} (host : Host State) (message : String) : Host State :=
  { host with discover := fun state _ _ _ => (.error message, state) }

end SelectorAudit.Analysis
