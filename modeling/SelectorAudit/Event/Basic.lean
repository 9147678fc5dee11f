import SelectorAudit.Report.Tally

/-!
# Events of a run

A run announces its start, each file it has looked at, and its end. Every event belongs to classes
of events, from its own to the class of all events.
-/

namespace SelectorAudit

set_option autoImplicit false

inductive Event where
  | run (root : String)
  | started (root : String) (generation : Nat)
  | fileAnalyzed (path : String) (kind : Report.SourceKind) (ok : Bool) (records : Nat)
  | completed (root : String) (selectors unused : Nat)
  | skipped (root reason : String)
  | aborted (root error : String)
  deriving DecidableEq, Repr

inductive EventClass where
  | run
  | started
  | fileAnalyzed
  | completed
  | skipped
  | aborted
  | any
  deriving DecidableEq, Repr

def Event.ownClass : Event → EventClass
  | .run _ => .run
  | .started _ _ => .started
  | .fileAnalyzed _ _ _ _ => .fileAnalyzed
  | .completed _ _ _ => .completed
  | .skipped _ _ => .skipped
  | .aborted _ _ => .aborted

/-- The classes that an event belongs to, most specific first. The events of a run form a class of
their own, which the events about single files are not in. -/
def Event.classes (event : Event) : List EventClass :=
  match event.ownClass with
  | .run => [.run, .any]
  | .fileAnalyzed => [.fileAnalyzed, .any]
  | own => [own, .run, .any]

end SelectorAudit
