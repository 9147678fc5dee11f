import SelectorAudit.Proofs.Storage.FlatDirectory

/-!
# Paths in normal form

The normal form of a path has no component that tidying takes away, so a reference that has been
resolved is opened under the path it was resolved to. The path of a file is its own normal form, and
its components are the names that lead to the file.
-/

namespace SelectorAudit

set_option autoImplicit false

namespace Path

/-- Whether a component stays in a tidied path. -/
def isProper (part : List Char) : Bool :=
  part != [] && part != ['.']

theorem components_slashes (slashes : Nat) (text : List Char) :
    components (List.replicate slashes '/' ++ text) =
      List.replicate slashes [] ++ components text := by
  induction slashes with
  | zero => rfl
  | succ slashes ih =>
      rw [List.replicate_succ, List.cons_append, List.replicate_succ, List.cons_append, ← ih]
      rfl

theorem components_from_whole (current text : List Char) (whole : '/' ∉ current) :
    ∀ part ∈ componentsFrom current text, '/' ∉ part := by
  induction text generalizing current with
  | nil =>
      intro part member
      rw [List.mem_singleton.mp member, List.mem_reverse]
      exact whole
  | cons first rest ih =>
      intro part member
      unfold componentsFrom at member
      split at member
      · rcases List.mem_cons.mp member with ended | later
        · rw [ended, List.mem_reverse]
          exact whole
        · exact ih [] List.not_mem_nil part later
      · rename_i other
        apply ih (first :: current) _ part member
        rw [List.mem_cons, not_or]
        exact ⟨fun slash => other (by rw [← slash]; rfl), whole⟩

theorem normal_step_proper {absolute : Bool} {kept : List (List Char)} (component : List Char)
    (before : ∀ part ∈ kept, isProper part = true) :
    ∀ part ∈ normalStep absolute kept component, isProper part = true := by
  unfold normalStep
  split
  · exact before
  · rename_i stays
    split
    · split
      · split
        · exact List.forall_mem_nil _
        · exact List.forall_mem_singleton.mpr (by decide)
      · obtain ⟨_, others⟩ := List.forall_mem_cons.mp before
        split
        · exact List.forall_mem_cons.mpr ⟨by decide, before⟩
        · exact others
    · rw [Bool.or_eq_true, beq_iff_eq, beq_iff_eq, not_or] at stays
      exact List.forall_mem_cons.mpr ⟨by simp [isProper, stays.1, stays.2], before⟩

theorem normal_components_proper (path : List Char) :
    ∀ part ∈ normalComponents path, isProper part = true ∧ '/' ∉ part := by
  have proper : ∀ (parts kept : List (List Char)), (∀ part ∈ kept, isProper part = true) →
      ∀ part ∈ parts.foldl (normalStep (isAbsolute path)) kept, isProper part = true := by
    intro parts
    induction parts with
    | nil => exact fun _ before => before
    | cons first rest ih => exact fun kept before => ih _ (normal_step_proper first before)
  intro part member
  have among := List.mem_reverse.mp member
  refine ⟨proper _ [] (List.forall_mem_nil _) part among, ?_⟩
  rcases normal_steps_mem among with nothing | component | dots
  · cases nothing
  · exact components_from_whole [] path List.not_mem_nil part component
  · rw [dots]
    decide

/-- The slashes in front of proper components are found again, unless there are too many. -/
theorem root_slashes_render {slashes : Nat} {parts : List (List Char)} (few : slashes ≤ 2)
    (proper : ∀ part ∈ parts, isProper part = true ∧ '/' ∉ part) :
    rootSlashes (List.replicate slashes '/' ++ render parts) = slashes := by
  have none : (render parts).takeWhile (fun c => c == '/') = [] := by
    cases parts with
    | nil => rfl
    | cons first more =>
        obtain ⟨⟨present, whole⟩, _⟩ := List.forall_mem_cons.mp proper
        cases first with
        | nil => cases present
        | cons c rest =>
            obtain ⟨tail, rendered⟩ := render_head c rest more
            rw [List.mem_cons, not_or] at whole
            rw [rendered, List.takeWhile_cons_of_neg]
            simpa using Ne.symm whole.1
  have counted : ((List.replicate slashes '/' ++ render parts).takeWhile fun c => c == '/').length =
      slashes := by
    rw [List.takeWhile_append_of_pos, none, List.append_nil, List.length_replicate]
    intro c member
    rw [List.eq_of_mem_replicate member]
    rfl
  unfold rootSlashes
  rw [counted]
  match slashes, few with
  | 0, _ | 1, _ | 2, _ => rfl

theorem root_slashes_few (path : List Char) : rootSlashes path ≤ 2 := by
  unfold rootSlashes
  dsimp only
  split
  · exact Nat.le_refl 2
  · split <;> omega

theorem normal_steps_names_kept (absolute : Bool) (kept : List (List Char))
    {names : List (List Char)} (named : ∀ name ∈ names, isProper name = true ∧ name ≠ parent) :
    names.foldl (normalStep absolute) kept = names.reverse ++ kept := by
  induction names generalizing kept with
  | nil => rfl
  | cons first rest ih =>
      obtain ⟨⟨proper, other⟩, later⟩ := List.forall_mem_cons.mp named
      rw [isProper, Bool.and_eq_true, bne_iff_ne, bne_iff_ne] at proper
      have step : normalStep absolute kept first = first :: kept := by
        simp [normalStep, proper.1, proper.2, other]
      rw [List.foldl_cons, step, ih _ later]
      simp

/-- Tidying takes nothing away from a path in normal form. -/
theorem tidy_normalize (path : String) : tidy (normalize path) = normalize path := by
  have proper := normal_components_proper path.toList
  have parted : (components (render (normalComponents path.toList))).filter isProper =
      normalComponents path.toList := by
    by_cases empty : normalComponents path.toList = []
    · rw [empty]
      rfl
    · rw [components_render empty fun part member => (proper part member).2]
      exact List.filter_eq_self.mpr fun part member => (proper part member).1
  unfold normalize normalizeList
  dsimp only
  split
  · decide +kernel
  · rename_i nonempty
    unfold tidy
    dsimp only
    rw [String.toList_ofList, root_slashes_render (root_slashes_few _) proper, components_slashes,
      List.filter_append, List.filter_replicate_of_neg (by decide), List.nil_append]
    rw [show (fun part => part != [] && part != ['.']) = isProper from rfl, parted, if_neg nonempty]

theorem tidy_resolve (base reference : String) :
    tidy (resolve base reference) = resolve base reference := by
  have normal : resolve base reference = normalize (join base reference) := by
    unfold resolve normalize join resolveList
    rw [String.toList_ofList]
  rw [normal, tidy_normalize]

end Path

namespace Storage

theorem normal_steps_names (absolute : Bool) (kept : List (List Char)) {names : Location}
    (fine : ∀ name ∈ names, FileName name) :
    (names.map String.toList).foldl (Path.normalStep absolute) kept =
      (names.map String.toList).reverse ++ kept := by
  apply Path.normal_steps_names_kept
  intro part member
  obtain ⟨name, among, rfl⟩ := List.mem_map.mp member
  have named := fine name among
  have dot : name.toList ≠ ['.'] := fun same => named.notHere (String.toList_inj.mp same)
  have dots : name.toList ≠ Path.parent := fun same => named.notAbove (String.toList_inj.mp same)
  exact ⟨by simp [Path.isProper, named.nonempty, dot], dots⟩

theorem literal_file_path {location : Location} {name : String}
    (names : ∀ part ∈ location ++ [name], FileName part) :
    FileTree.literal (filePath location name) = location ++ [name] := by
  unfold FileTree.literal Path.normalComponents
  rw [file_path_components names, List.foldl_cons]
  rw [show Path.normalStep _ [] [] = [] from rfl, normal_steps_names _ _ names]
  simp [List.map_map, Function.comp_def]

end Storage

end SelectorAudit
