import SelectorAudit.Report.Diagnostic

/-!
# The diagnostics sink

Where findings are handed to the host: for each file a list of diagnostics that is replaced as a
whole. A file with no diagnostics is not listed.
-/

namespace SelectorAudit.Report

set_option autoImplicit false

structure Sink where
  entries : Grouped
  deriving DecidableEq, Repr

namespace Sink

def empty : Sink := ⟨[]⟩

def put (file : String) (diagnostics : List Diagnostic) : Grouped → Grouped
  | [] => [(file, diagnostics)]
  | entry :: rest =>
      if entry.1 == file then (file, diagnostics) :: rest else entry :: put file diagnostics rest

/-- Replaces the diagnostics of one file; without any the file is no longer listed. -/
def set (sink : Sink) (file : String) (diagnostics : List Diagnostic) : Sink :=
  if diagnostics.isEmpty then ⟨sink.entries.filter fun entry => entry.1 != file⟩
  else ⟨put file diagnostics sink.entries⟩

def clear (_sink : Sink) : Sink := empty

/-- The diagnostics of a file. -/
def get (sink : Sink) (file : String) : List Diagnostic :=
  (sink.entries.lookup file).getD []

/-- The listed files in the order in which they came. -/
def files (sink : Sink) : List String :=
  sink.entries.map Prod.fst

/-- The diagnostics of all files. -/
def all (sink : Sink) : List Diagnostic :=
  sink.entries.flatMap Prod.snd

def size (sink : Sink) : Nat :=
  sink.entries.foldr (fun entry total => entry.2.length + total) 0

/-- Replaces everything that the sink holds. -/
def publish (sink : Sink) (grouped : Grouped) : Sink :=
  grouped.foldl (fun current entry => current.set entry.1 entry.2) sink.clear

end Sink

end SelectorAudit.Report
