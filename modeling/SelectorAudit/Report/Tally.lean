/-!
# Tallies of files

How many files of each kind a run has read with success, failed on, or skipped because they are
blank.
-/

namespace SelectorAudit.Report

set_option autoImplicit false

inductive SourceKind where
  | stylesheet
  | jsx
  | decorator
  deriving DecidableEq, Repr

def SourceKind.word : SourceKind → String
  | .stylesheet => "stylesheet"
  | .jsx => "jsx"
  | .decorator => "decorator"

def SourceKind.all : List SourceKind := [.stylesheet, .jsx, .decorator]

structure Tally where
  succeeded : Nat
  failed : Nat
  skipped : Nat
  deriving DecidableEq, Repr

def Tally.zero : Tally := ⟨0, 0, 0⟩

def Tally.total (tally : Tally) : Nat :=
  tally.succeeded + tally.failed + tally.skipped

inductive FileOutcome where
  | succeeded
  | failed
  | skipped
  deriving DecidableEq, Repr

def Tally.count (tally : Tally) : FileOutcome → Tally
  | .succeeded => { tally with succeeded := tally.succeeded + 1 }
  | .failed => { tally with failed := tally.failed + 1 }
  | .skipped => { tally with skipped := tally.skipped + 1 }

structure ScanCounts where
  stylesheet : Tally
  jsx : Tally
  decorator : Tally
  deriving DecidableEq, Repr

namespace ScanCounts

def zero : ScanCounts := ⟨.zero, .zero, .zero⟩

def get (counts : ScanCounts) : SourceKind → Tally
  | .stylesheet => counts.stylesheet
  | .jsx => counts.jsx
  | .decorator => counts.decorator

def set (counts : ScanCounts) (kind : SourceKind) (tally : Tally) : ScanCounts :=
  match kind with
  | .stylesheet => { counts with stylesheet := tally }
  | .jsx => { counts with jsx := tally }
  | .decorator => { counts with decorator := tally }

def count (counts : ScanCounts) (kind : SourceKind) (outcome : FileOutcome) : ScanCounts :=
  counts.set kind ((counts.get kind).count outcome)

def scanned (counts : ScanCounts) (kind : SourceKind) : Nat :=
  (counts.get kind).total

end ScanCounts

end SelectorAudit.Report
