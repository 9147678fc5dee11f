import SelectorAudit.Report.Sink

/-!
# Publishing grouped diagnostics

The diagnostics of a run are grouped by style sheet: no file is listed twice, and none without a
diagnostic. Publishing such a grouping replaces what the sink holds by the grouping itself, in the
same order, whatever the sink held before.
-/

namespace SelectorAudit.Report

set_option autoImplicit false

/-- No file is listed twice or without diagnostics. -/
structure Grouped.Proper (grouped : Grouped) : Prop where
  distinct : (grouped.map Prod.fst).Nodup
  nonempty : ∀ entry ∈ grouped, entry.2 ≠ []

theorem add_files (diagnostic : Diagnostic) (grouped : Grouped) :
    (Grouped.add diagnostic grouped).map Prod.fst =
      if diagnostic.file ∈ grouped.map Prod.fst then grouped.map Prod.fst
      else grouped.map Prod.fst ++ [diagnostic.file] := by
  induction grouped with
  | nil => rfl
  | cons entry grouped ih =>
      rw [Grouped.add]
      by_cases same : entry.1 = diagnostic.file
      · simp [same]
      · have other : diagnostic.file ≠ entry.1 := Ne.symm same
        rw [if_neg (by simpa using same), List.map_cons, ih]
        simp only [List.map_cons, List.mem_cons, other, false_or]
        split <;> rfl

theorem add_nonempty {grouped : Grouped} (diagnostic : Diagnostic)
    (nonempty : ∀ entry ∈ grouped, entry.2 ≠ []) :
    ∀ entry ∈ Grouped.add diagnostic grouped, entry.2 ≠ [] := by
  induction grouped with
  | nil =>
      intro entry member
      rw [List.mem_singleton.mp member]
      exact List.cons_ne_nil _ _
  | cons first grouped ih =>
      obtain ⟨filled, laterFilled⟩ := List.forall_mem_cons.mp nonempty
      rw [Grouped.add]
      split
      · exact List.forall_mem_cons.mpr ⟨by simp, laterFilled⟩
      · exact List.forall_mem_cons.mpr ⟨filled, ih laterFilled⟩

theorem add_proper {grouped : Grouped} (diagnostic : Diagnostic) (proper : grouped.Proper) :
    (Grouped.add diagnostic grouped).Proper := by
  refine ⟨?_, add_nonempty diagnostic proper.nonempty⟩
  rw [add_files]
  split
  · exact proper.distinct
  · rename_i unlisted
    have fresh : ∀ file ∈ grouped.map Prod.fst, file ≠ diagnostic.file := by
      rintro file listed rfl
      exact unlisted listed
    simpa [List.nodup_append, proper.distinct] using fresh

theorem foldl_add_proper {grouped : Grouped} (unused : List Selector) (counts : ScanCounts)
    (proper : grouped.Proper) :
    (unused.foldl (fun grouped selector => Grouped.add (toDiagnostic counts selector) grouped)
      grouped).Proper := by
  induction unused generalizing grouped with
  | nil => exact proper
  | cons selector unused ih => exact ih (add_proper _ proper)

theorem project_proper (unused : List Selector) (counts : ScanCounts) :
    (project unused counts).Proper :=
  foldl_add_proper unused counts ⟨List.nodup_nil, by simp⟩

theorem put_unlisted {file : String} {entries : Grouped} (diagnostics : List Diagnostic)
    (unlisted : file ∉ entries.map Prod.fst) :
    Sink.put file diagnostics entries = entries ++ [(file, diagnostics)] := by
  induction entries with
  | nil => rfl
  | cons entry entries ih =>
      rw [List.map_cons, List.mem_cons, not_or] at unlisted
      rw [Sink.put, if_neg (by simpa using Ne.symm unlisted.1), ih unlisted.2, List.cons_append]

theorem set_entries {entries grouped : Grouped}
    (proper : Grouped.Proper (entries ++ grouped)) :
    grouped.foldl (fun current entry => Sink.set current entry.1 entry.2) ⟨entries⟩ =
      ⟨entries ++ grouped⟩ := by
  induction grouped generalizing entries with
  | nil => simp
  | cons entry grouped ih =>
      have filled : entry.2 ≠ [] := proper.nonempty entry (by simp)
      have unlisted : entry.1 ∉ entries.map Prod.fst := by
        have distinct := proper.distinct
        rw [List.map_append, List.map_cons, List.nodup_append] at distinct
        intro listed
        exact distinct.2.2 entry.1 listed entry.1 List.mem_cons_self rfl
      have step : Sink.set ⟨entries⟩ entry.1 entry.2 = ⟨entries ++ [entry]⟩ := by
        rw [Sink.set, if_neg (by simpa using filled), put_unlisted entry.2 unlisted]
      have regrouped : entries ++ entry :: grouped = (entries ++ [entry]) ++ grouped := by simp
      rw [List.foldl_cons, step, regrouped]
      exact ih (regrouped ▸ proper)

theorem publish_proper (sink : Sink) {grouped : Grouped} (proper : grouped.Proper) :
    sink.publish grouped = ⟨grouped⟩ :=
  set_entries proper

end SelectorAudit.Report
