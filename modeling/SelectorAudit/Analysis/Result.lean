import SelectorAudit.Reconcile
import SelectorAudit.Report.ErrorLog
import SelectorAudit.Report.Sink

/-!
# Results of a run

A run ends in one of three ways: it completes, it is skipped because there are too few style sheets,
or it is aborted and then reports no findings.
-/

namespace SelectorAudit.Analysis

set_option autoImplicit false

open Report

inductive Status where
  | completed
  | skipped
  | aborted
  deriving DecidableEq, Repr

def Status.word : Status → String
  | .completed => "completed"
  | .skipped => "skipped"
  | .aborted => "aborted"

structure Result where
  root : String
  status : Status
  selectors : List Selector
  used : List UsedName
  unused : List Selector
  diagnostics : Grouped
  counts : ScanCounts
  errors : ErrorLog
  skipReason : Option String
  generation : Nat
  published : Bool
  deriving DecidableEq, Repr

namespace Result

def completed (result : Result) : Bool := result.status == .completed

def aborted (result : Result) : Bool := result.status == .aborted

def unusedCount (result : Result) : Nat := result.unused.length

def distinctUnusedCount (result : Result) : Nat := (distinctUnused result.unused).length

end Result

end SelectorAudit.Analysis
