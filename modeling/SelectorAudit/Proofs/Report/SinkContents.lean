import SelectorAudit.Proofs.Report.OrderedTable
import SelectorAudit.Proofs.Report.Publication

/-!
# What a sink holds after any history

A sink may be set file by file, cleared and published to in any order, with any files and any lists
of diagnostics, empty ones included. Its entries stay a proper grouping all the while: no file is
listed twice, and a file is listed as long as it has diagnostics. From that alone the views of a
sink agree with each other. Setting one file is a change of a table: the other files keep their
diagnostics and their order, and a listed file that is given diagnostics again keeps its place.
-/

namespace SelectorAudit.Report

set_option autoImplicit false

inductive SinkRequest where
  | set (file : String) (diagnostics : List Diagnostic)
  | clear
  | publish (grouped : Grouped)
  deriving DecidableEq, Repr

namespace Sink

def perform (sink : Sink) : SinkRequest → Sink
  | .set file diagnostics => sink.set file diagnostics
  | .clear => sink.clear
  | .publish grouped => sink.publish grouped

/-- The sink that some requests leave, made one after the other from the start. -/
def after (requests : List SinkRequest) : Sink :=
  requests.foldl perform empty

end Sink

/-! Setting one file. -/

theorem put_eq_amend (file : String) (diagnostics : List Diagnostic) (entries : Grouped) :
    Sink.put file diagnostics entries = amend file (fun _ => diagnostics) entries := by
  induction entries with
  | nil => rfl
  | cons entry rest ih =>
      rw [Sink.put, amend, ih]
      simp only [beq_iff_eq]

theorem set_entries_of_none (sink : Sink) (file : String) :
    (sink.set file []).entries = omitKey file sink.entries :=
  rfl

theorem set_entries_of_some {diagnostics : List Diagnostic} (sink : Sink) (file : String)
    (filled : diagnostics ≠ []) :
    (sink.set file diagnostics).entries = amend file (fun _ => diagnostics) sink.entries := by
  rw [Sink.set, if_neg (by simpa using filled), put_eq_amend]

theorem set_files (sink : Sink) (file : String) (diagnostics : List Diagnostic) :
    (sink.set file diagnostics).files =
      if diagnostics = [] then sink.files.filter fun other => other != file
      else if file ∈ sink.files then sink.files else sink.files ++ [file] := by
  by_cases none : diagnostics = []
  · rw [none, if_pos rfl, Sink.files, set_entries_of_none, omit_keys]
    rfl
  · rw [if_neg none, Sink.files, set_entries_of_some sink file none, amend_keys]
    rfl

theorem set_get (sink : Sink) (file other : String) (diagnostics : List Diagnostic) :
    (sink.set file diagnostics).get other =
      if other = file then diagnostics else sink.get other := by
  by_cases none : diagnostics = []
  · rw [none, Sink.get, set_entries_of_none, omit_lookup]
    split <;> rfl
  · rw [Sink.get, set_entries_of_some sink file none, amend_lookup]
    split <;> rfl

theorem set_other_files (sink : Sink) (file : String) (diagnostics : List Diagnostic) :
    ((sink.set file diagnostics).files.filter fun other => other != file) =
      sink.files.filter fun other => other != file := by
  rw [set_files]
  split
  · rw [List.filter_filter]
    simp only [Bool.and_self]
  · split
    · rfl
    · rw [List.filter_append]
      simp

/-! Histories. -/

theorem set_keeps_proper {sink : Sink} (proper : sink.entries.Proper) (file : String)
    (diagnostics : List Diagnostic) : (sink.set file diagnostics).entries.Proper := by
  by_cases none : diagnostics = []
  · rw [none, set_entries_of_none]
    refine ⟨omit_distinct file proper.distinct, ?_⟩
    intro entry member
    exact proper.nonempty entry (List.mem_filter.mp member).1
  · rw [set_entries_of_some sink file none]
    refine ⟨amend_distinct file _ proper.distinct, ?_⟩
    intro entry member
    rcases mem_amend member with before | ⟨_, changed⟩
    · exact proper.nonempty entry before
    · rw [changed]
      exact none

theorem empty_proper : Sink.empty.entries.Proper :=
  ⟨List.nodup_nil, List.forall_mem_nil _⟩

theorem set_all_proper {sink : Sink} (proper : sink.entries.Proper) (grouped : Grouped) :
    (grouped.foldl (fun current entry => current.set entry.1 entry.2) sink).entries.Proper := by
  induction grouped generalizing sink with
  | nil => exact proper
  | cons entry rest ih => exact ih (set_keeps_proper proper entry.1 entry.2)

theorem perform_proper {sink : Sink} (proper : sink.entries.Proper) (request : SinkRequest) :
    (sink.perform request).entries.Proper := by
  cases request with
  | set file diagnostics => exact set_keeps_proper proper file diagnostics
  | clear => exact empty_proper
  | publish grouped => exact set_all_proper empty_proper grouped

theorem perform_all_proper {sink : Sink} (proper : sink.entries.Proper)
    (requests : List SinkRequest) : (requests.foldl Sink.perform sink).entries.Proper := by
  induction requests generalizing sink with
  | nil => exact proper
  | cons request rest ih => exact ih (perform_proper proper request)

/-! The views of a proper sink. -/

theorem entries_spelled_out {sink : Sink} (proper : sink.entries.Proper) :
    sink.entries = sink.files.map fun file => (file, sink.get file) :=
  table_spelled_out proper.distinct []

theorem get_nonempty_iff {sink : Sink} (proper : sink.entries.Proper) (file : String) :
    sink.get file ≠ [] ↔ file ∈ sink.files := by
  constructor
  · intro filled
    by_contra unlisted
    apply filled
    rw [Sink.get, lookup_unlisted unlisted]
    rfl
  · intro listed
    have member : (file, sink.get file) ∈ sink.entries := by
      rw [entries_spelled_out proper]
      exact List.mem_map_of_mem listed
    exact proper.nonempty _ member

theorem all_eq_concat {sink : Sink} (proper : sink.entries.Proper) :
    sink.all = sink.files.flatMap sink.get := by
  rw [Sink.all, entries_spelled_out proper, List.flatMap_map]

theorem size_eq_length (sink : Sink) : sink.size = sink.all.length := by
  unfold Sink.size Sink.all
  induction sink.entries with
  | nil => rfl
  | cons entry rest ih => rw [List.foldr_cons, ih, List.flatMap_cons, List.length_append]

/-- A sink represents one list of diagnostics for each file. After any requests the listed files are
distinct, a file is listed exactly if it has diagnostics, all diagnostics are those of the listed
files in order, and the size counts them. Setting a file then gives it the new diagnostics and no
other file any others; the other files keep their order, and a listed file that is not emptied keeps
its place. -/
theorem sink_lists_each_file (requests : List SinkRequest) :
    let sink := Sink.after requests
    sink.files.Nodup ∧
    (∀ file, sink.get file ≠ [] ↔ file ∈ sink.files) ∧
    sink.all = sink.files.flatMap sink.get ∧
    sink.size = sink.all.length ∧
    ∀ file diagnostics,
      (sink.set file diagnostics).get file = diagnostics ∧
      (∀ other, other ≠ file → (sink.set file diagnostics).get other = sink.get other) ∧
      ((sink.set file diagnostics).files.filter fun other => other != file) =
        (sink.files.filter fun other => other != file) ∧
      (file ∈ sink.files → diagnostics ≠ [] →
        (sink.set file diagnostics).files = sink.files) := by
  intro sink
  have proper : sink.entries.Proper := perform_all_proper empty_proper requests
  refine ⟨proper.distinct, get_nonempty_iff proper, all_eq_concat proper, size_eq_length sink, ?_⟩
  intro file diagnostics
  refine ⟨?_, ?_, set_other_files sink file diagnostics, ?_⟩
  · rw [set_get, if_pos rfl]
  · intro other apart
    rw [set_get, if_neg apart]
  · intro listed filled
    rw [set_files, if_neg filled, if_pos listed]

def remark (file : String) : Diagnostic :=
  ⟨file, ⟨⟨0, 0⟩, ⟨0, 2⟩⟩, 1, 1, .warning, "Unused CSS class: \".a\"", "unused"⟩

/-- Two files are published, and the first is emptied and filled again: it has moved to the end, and
setting the other one leaves it there. -/
theorem sink_lists_each_file_moved :
    let sink := Sink.after [.set "z.css" [remark "z.css"],
      .publish [("a.css", [remark "a.css"]), ("b.css", [remark "b.css"])],
      .set "a.css" [], .set "a.css" [remark "a.css"]]
    sink.files = ["b.css", "a.css"] ∧
      (sink.set "b.css" [remark "b.css", remark "b.css"]).files = sink.files ∧
      (sink.set "b.css" [remark "b.css", remark "b.css"]).get "a.css" = sink.get "a.css" := by
  intro sink
  obtain ⟨_, _, _, _, setting⟩ := sink_lists_each_file [.set "z.css" [remark "z.css"],
    .publish [("a.css", [remark "a.css"]), ("b.css", [remark "b.css"])],
    .set "a.css" [], .set "a.css" [remark "a.css"]]
  obtain ⟨_, others, _, place⟩ := setting "b.css" [remark "b.css", remark "b.css"]
  exact ⟨by decide, place (by decide) (by decide), others "a.css" (by decide)⟩

end SelectorAudit.Report
