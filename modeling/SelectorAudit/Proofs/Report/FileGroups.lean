import SelectorAudit.Proofs.Report.Publication
import Mathlib.Data.List.Induction

/-!
# What a sink holds after publication

The grouping of diagnostics by file is a stable one: each file stands where it was seen first, and
the diagnostics of a file keep the order of its selectors. A sink that publishes the grouping holds
nothing else, so every question to it has an answer in terms of the selectors alone.
-/

namespace SelectorAudit.Report

set_option autoImplicit false

/-- The files of some selectors, once each, in the order in which they are first seen. -/
def seenFiles (unused : List Selector) : List String :=
  (unused.map Selector.file).eraseDups

/-- The diagnostics of the selectors in one file, in order. -/
def diagnosticsOf (unused : List Selector) (counts : ScanCounts) (file : String) :
    List Diagnostic :=
  (unused.filter fun selector => selector.file == file).map (toDiagnostic counts)

def groupsOf (files : List String) (diagnostics : String → List Diagnostic) : Grouped :=
  files.map fun file => (file, diagnostics file)

theorem mem_seen_files {unused : List Selector} {file : String} :
    file ∈ seenFiles unused ↔ ∃ selector ∈ unused, selector.file = file := by
  simp [seenFiles, List.mem_eraseDups]

theorem seen_files_snoc (unused : List Selector) (selector : Selector) :
    seenFiles (unused ++ [selector]) =
      if selector.file ∈ seenFiles unused then seenFiles unused
      else seenFiles unused ++ [selector.file] := by
  have step : seenFiles (unused ++ [selector]) =
      seenFiles unused ++ ([selector.file].removeAll (unused.map Selector.file)).eraseDups := by
    rw [seenFiles, List.map_append, List.eraseDups_append]
    rfl
  rw [step, List.removeAll]
  by_cases known : selector.file ∈ seenFiles unused
  · have dropped : (unused.map Selector.file).contains selector.file = true := by
      simpa [seenFiles, List.mem_eraseDups] using known
    rw [if_pos known, List.filter_cons_of_neg (by simp only [dropped]; decide), List.filter_nil,
      List.eraseDups_nil, List.append_nil]
  · have kept : (unused.map Selector.file).contains selector.file = false := by
      simpa [seenFiles, List.mem_eraseDups] using known
    rw [if_neg known, List.filter_cons_of_pos (by simp only [kept]; decide), List.filter_nil]
    rfl

theorem diagnostics_of_snoc (unused : List Selector) (selector : Selector) (counts : ScanCounts)
    (file : String) :
    diagnosticsOf (unused ++ [selector]) counts file =
      if file = selector.file then diagnosticsOf unused counts file ++ [toDiagnostic counts selector]
      else diagnosticsOf unused counts file := by
  by_cases same : file = selector.file
  · simp [diagnosticsOf, same]
  · have other : selector.file ≠ file := Ne.symm same
    simp [diagnosticsOf, same, other]

theorem diagnostics_of_unseen {unused : List Selector} {file : String} (counts : ScanCounts)
    (unseen : file ∉ seenFiles unused) : diagnosticsOf unused counts file = [] := by
  have none : ∀ selector ∈ unused, selector.file ≠ file := by
    intro selector member same
    exact unseen (mem_seen_files.mpr ⟨selector, member, same⟩)
  simpa [diagnosticsOf] using none

/-- A diagnostic goes to the end of its group; the first one of a file makes a group at the end. -/
theorem add_to_groups {files : List String} {diagnostics : String → List Diagnostic}
    (diagnostic : Diagnostic) (distinct : files.Nodup)
    (unlisted : diagnostic.file ∉ files → diagnostics diagnostic.file = []) :
    Grouped.add diagnostic (groupsOf files diagnostics) =
      groupsOf (if diagnostic.file ∈ files then files else files ++ [diagnostic.file])
        fun file =>
          if file = diagnostic.file then diagnostics file ++ [diagnostic] else diagnostics file := by
  induction files with
  | nil => simp [groupsOf, Grouped.add, unlisted]
  | cons file files ih =>
      obtain ⟨fresh, distinctLater⟩ := List.nodup_cons.mp distinct
      by_cases same : file = diagnostic.file
      · have others : ∀ other ∈ files, (other, diagnostics other) =
            (other, if other = diagnostic.file then diagnostics other ++ [diagnostic]
              else diagnostics other) := by
          intro other member
          have apart : other ≠ diagnostic.file := by
            intro equal
            apply fresh
            rw [same, ← equal]
            exact member
          rw [if_neg apart]
        simp only [groupsOf, List.map_cons, Grouped.add, same, beq_self_eq_true, if_true,
          List.mem_cons, true_or]
        rw [List.map_congr_left others]
      · have other : diagnostic.file ≠ file := Ne.symm same
        have later := ih distinctLater fun absent => unlisted (by simp [other, absent])
        have kept : (file == diagnostic.file) = false := by simpa using same
        simp only [groupsOf] at later
        simp only [groupsOf, List.map_cons, Grouped.add, kept, Bool.false_eq_true, if_false, later,
          List.mem_cons, other, false_or]
        split <;> simp [same]

theorem project_snoc (unused : List Selector) (selector : Selector) (counts : ScanCounts) :
    project (unused ++ [selector]) counts =
      Grouped.add (toDiagnostic counts selector) (project unused counts) := by
  rw [project, List.foldl_append]
  rfl

theorem project_eq_groups (unused : List Selector) (counts : ScanCounts) :
    project unused counts = groupsOf (seenFiles unused) (diagnosticsOf unused counts) := by
  induction unused using List.reverseRecOn with
  | nil => rfl
  | append_singleton unused selector ih =>
      have distinct : (seenFiles unused).Nodup := by
        have proper := (project_proper unused counts).distinct
        rw [ih] at proper
        simpa [groupsOf, Function.comp_def] using proper
      have placed := add_to_groups (toDiagnostic counts selector) distinct
        (diagnostics_of_unseen counts)
      rw [project_snoc, ih, placed, seen_files_snoc]
      simp only [groupsOf, diagnostics_of_snoc]
      rfl

theorem add_size (diagnostic : Diagnostic) (grouped : Grouped) :
    Sink.size ⟨Grouped.add diagnostic grouped⟩ = Sink.size ⟨grouped⟩ + 1 := by
  induction grouped with
  | nil => rfl
  | cons entry grouped ih =>
      rw [Grouped.add]
      split
      · simp only [Sink.size, List.foldr_cons, List.length_append, List.length_singleton]
        omega
      · simp only [Sink.size, List.foldr_cons] at ih ⊢
        omega

theorem project_size (unused : List Selector) (counts : ScanCounts) :
    Sink.size ⟨project unused counts⟩ = unused.length := by
  induction unused using List.reverseRecOn with
  | nil => rfl
  | append_singleton unused selector ih =>
      rw [project_snoc, add_size, ih, List.length_append, List.length_singleton]

theorem get_of_groups (files : List String) (diagnostics : String → List Diagnostic)
    (file : String) :
    Sink.get ⟨groupsOf files diagnostics⟩ file = if file ∈ files then diagnostics file else [] := by
  induction files with
  | nil => rfl
  | cons first files ih =>
      by_cases same : file = first
      · simp [Sink.get, groupsOf, same]
      · have apart : (file == first) = false := by simpa using same
        simp only [Sink.get, groupsOf, List.map_cons, List.lookup_cons, apart, List.mem_cons, same,
          false_or] at ih ⊢
        exact ih

/-- Publication loses nothing, doubles nothing and forgets the past. Whatever a sink held, behind
the publication of some unused selectors it lists their files in the order in which they were first
seen, holds for every file the diagnostics of its selectors in order, as many in all as there are
selectors, and a file it listed before is listed still only if a selector stands in it. -/
theorem published_sink_shows (sink : Sink) (unused : List Selector) (counts : ScanCounts) :
    (sink.publish (project unused counts)).files = seenFiles unused ∧
    (∀ file, (sink.publish (project unused counts)).get file = diagnosticsOf unused counts file) ∧
    (sink.publish (project unused counts)).size = unused.length ∧
    (sink.publish (project unused counts)).all =
      (seenFiles unused).flatMap (diagnosticsOf unused counts) ∧
    ∀ file ∈ sink.files, file ∈ (sink.publish (project unused counts)).files →
      ∃ selector ∈ unused, selector.file = file := by
  have held : sink.publish (project unused counts) = ⟨project unused counts⟩ :=
    publish_proper sink (project_proper unused counts)
  have grouped := project_eq_groups unused counts
  have files : (sink.publish (project unused counts)).files = seenFiles unused := by
    rw [held, grouped]
    simp [Sink.files, groupsOf, Function.comp_def]
  refine ⟨files, ?_, ?_, ?_, ?_⟩
  · intro file
    rw [held, grouped, get_of_groups]
    split
    · rfl
    · rename_i unseen
      exact (diagnostics_of_unseen counts unseen).symm
  · rw [held, project_size]
  · rw [held, grouped]
    simp only [Sink.all, groupsOf, List.flatMap_map]
  · intro file _ listed
    rw [files] at listed
    exact mem_seen_files.mp listed

end SelectorAudit.Report
