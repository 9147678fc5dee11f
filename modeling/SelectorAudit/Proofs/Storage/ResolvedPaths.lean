import SelectorAudit.Proofs.Storage.NormalPaths

/-!
# Resolving a reference part by part

The components that stay in a normal form are names, and in a relative path pairs of dots before
them. Taking the normal form once more keeps all of these, and what follows a path does not depend
on whether its normal form was taken before. So a resolved path is its own normal form, and a
reference of two parts leads to the same place as its parts one after the other.
-/

namespace SelectorAudit.Path

set_option autoImplicit false

/-- Pairs of dots stand before all names, and in an absolute path nowhere. -/
def DotsLead (absolute : Bool) (parts : List (List Char)) : Prop :=
  ∃ ups names, parts = List.replicate ups parent ++ names ∧ parent ∉ names ∧
    (absolute = true → ups = 0)

/-- A path in normal form: a dot, or components behind no, one or two slashes. -/
inductive IsNormal : List Char → Prop where
  | dot : IsNormal ['.']
  | path {slashes : Nat} {parts : List (List Char)} (few : slashes ≤ 2)
      (something : 0 < slashes ∨ parts ≠ []) (whole : ∀ part ∈ parts, '/' ∉ part)
      (present : [] ∉ parts) (dotless : ['.'] ∉ parts)
      (dots : DotsLead (decide (0 < slashes)) parts) :
      IsNormal (List.replicate slashes '/' ++ render parts)

/-! Absolute paths. -/

theorem absolute_of_slashes (path : List Char) :
    isAbsolute path = decide (0 < rootSlashes path) := by
  cases path with
  | nil => rfl
  | cons c rest =>
      by_cases slash : c = '/'
      · subst slash
        have counted : 0 < rootSlashes ('/' :: rest) := by
          unfold rootSlashes
          simp only [List.takeWhile_cons, beq_self_eq_true, if_true, List.length_cons, beq_iff_eq,
            Nat.succ_ne_zero, if_false]
          split <;> omega
        rw [decide_eq_true counted]
        rfl
      · simp [isAbsolute, rootSlashes, slash]

theorem relative_starts_no_slash {path : List Char} (relative : isAbsolute path = false) :
    path.takeWhile (fun c => c == '/') = [] := by
  cases path with
  | nil => rfl
  | cons c rest =>
      apply List.takeWhile_cons_of_neg
      simpa [isAbsolute] using relative

/-! What the normal form keeps. -/

theorem normal_step_dots {absolute : Bool} {kept : List (List Char)} (component : List Char)
    (dots : DotsLead absolute kept.reverse) :
    DotsLead absolute (normalStep absolute kept component).reverse := by
  obtain ⟨ups, names, reversed, free, rooted⟩ := dots
  have split : kept = names.reverse ++ List.replicate ups parent := by
    rw [← List.reverse_reverse kept, reversed]
    simp
  subst split
  unfold normalStep
  split
  · exact ⟨ups, names, reversed, free, rooted⟩
  · split
    · cases last : names.reverse with
      | nil =>
          cases ups with
          | zero =>
              cases absolute with
              | true => exact ⟨0, [], rfl, List.not_mem_nil, rooted⟩
              | false => exact ⟨1, [], rfl, List.not_mem_nil, nofun⟩
          | succ ups =>
              refine ⟨ups + 2, [], ?_, List.not_mem_nil, ?_⟩
              · simp [List.replicate_succ, ← List.replicate_succ']
              · intro top
                exact absurd (rooted top) (Nat.succ_ne_zero ups)
      | cons name before =>
          have among : name ∈ names := by
            rw [← List.mem_reverse, last]
            exact List.mem_cons_self
          have other : (name == parent) = false := by
            rw [beq_eq_false_iff_ne]
            exact fun same => free (same ▸ among)
          simp only [List.cons_append, other, Bool.false_eq_true, if_false]
          refine ⟨ups, before.reverse, by simp, ?_, rooted⟩
          intro member
          apply free
          rw [← List.mem_reverse, last]
          exact List.mem_cons_of_mem name (List.mem_reverse.mp member)
    · next named =>
        refine ⟨ups, names ++ [component], by simp, ?_, rooted⟩
        rw [List.mem_append, not_or, List.mem_singleton]
        exact ⟨free, fun same => named (by rw [← same]; rfl)⟩

theorem normal_steps_dots {absolute : Bool} (parts : List (List Char)) {kept : List (List Char)}
    (dots : DotsLead absolute kept.reverse) :
    DotsLead absolute (parts.foldl (normalStep absolute) kept).reverse := by
  induction parts generalizing kept with
  | nil => exact dots
  | cons first rest ih => exact ih (normal_step_dots first dots)

theorem normal_components_dots (path : List Char) :
    DotsLead (isAbsolute path) (normalComponents path) :=
  normal_steps_dots (components path) ⟨0, [], rfl, List.not_mem_nil, fun _ => rfl⟩

theorem normal_steps_ups (ups : Nat) :
    (List.replicate ups parent).foldl (normalStep false) [] = List.replicate ups parent := by
  induction ups with
  | zero => rfl
  | succ ups ih =>
      rw [List.replicate_succ', List.foldl_append, ih, ← List.replicate_succ']
      cases ups with
      | zero => rfl
      | succ ups => rfl

/-- Components that have been kept are kept again. -/
theorem normal_steps_normal {absolute : Bool} {parts : List (List Char)}
    (proper : ∀ part ∈ parts, isProper part = true) (dots : DotsLead absolute parts) :
    parts.foldl (normalStep absolute) [] = parts.reverse := by
  obtain ⟨ups, names, rfl, free, rooted⟩ := dots
  have climbed : (List.replicate ups parent).foldl (normalStep absolute) [] =
      List.replicate ups parent := by
    cases absolute with
    | true =>
        rw [rooted rfl]
        rfl
    | false => exact normal_steps_ups ups
  have named : ∀ name ∈ names, isProper name = true ∧ name ≠ parent := by
    intro name member
    refine ⟨proper name (List.mem_append_right _ member), ?_⟩
    exact fun same => free (same ▸ member)
  rw [List.foldl_append, climbed, normal_steps_names_kept absolute _ named]
  simp

/-! The normal form of a normal form. -/

theorem root_slashes_normalize (path : List Char) :
    rootSlashes (normalizeList path) = rootSlashes path := by
  unfold normalizeList
  dsimp only
  split
  · next empty =>
      rw [List.isEmpty_iff, List.append_eq_nil_iff, List.replicate_eq_nil_iff] at empty
      rw [empty.1]
      decide
  · exact root_slashes_render (root_slashes_few path) (normal_components_proper path)

theorem absolute_normalize (path : List Char) :
    isAbsolute (normalizeList path) = isAbsolute path := by
  rw [absolute_of_slashes, absolute_of_slashes, root_slashes_normalize]

/-- The components of leading slashes are empty and vanish. -/
theorem normal_steps_slashes (absolute : Bool) (slashes : Nat) (later : List (List Char)) :
    (List.replicate slashes [] ++ later).foldl (normalStep absolute) [] =
      later.foldl (normalStep absolute) [] := by
  induction slashes with
  | zero => rfl
  | succ slashes ih => exact ih

theorem normal_components_normalize (path : List Char) :
    normalComponents (normalizeList path) = normalComponents path := by
  have proper := normal_components_proper path
  have kept := normal_steps_normal (fun part member => (proper part member).1)
    (normal_components_dots path)
  have steps : (components (normalizeList path)).foldl (normalStep (isAbsolute path)) [] =
      (normalComponents path).reverse := by
    by_cases none : normalComponents path = []
    · rw [none]
      unfold normalizeList
      dsimp only
      rw [none]
      split
      · rfl
      · rw [components_slashes, normal_steps_slashes]
        rfl
    · have parted := components_render none fun part member => (proper part member).2
      have written : normalizeList path =
          List.replicate (rootSlashes path) '/' ++ render (normalComponents path) := by
        apply if_neg
        intro empty
        rw [List.isEmpty_iff, List.append_eq_nil_iff] at empty
        rw [empty.2] at parted
        rw [← parted] at proper
        exact absurd (proper [] List.mem_cons_self).1 (by decide)
      rw [written, components_slashes, normal_steps_slashes, parted, kept]
  rw [normalComponents, absolute_normalize, steps, List.reverse_reverse]

theorem normalize_congr {first second : List Char}
    (slashes : rootSlashes first = rootSlashes second)
    (parts : normalComponents first = normalComponents second) :
    normalizeList first = normalizeList second := by
  unfold normalizeList
  rw [slashes, parts]

theorem normalize_normalize (path : List Char) :
    normalizeList (normalizeList path) = normalizeList path :=
  normalize_congr (root_slashes_normalize path) (normal_components_normalize path)

theorem normalize_is_normal (path : List Char) : IsNormal (normalizeList path) := by
  have proper := normal_components_proper path
  have dots := normal_components_dots path
  rw [absolute_of_slashes] at dots
  unfold normalizeList
  dsimp only
  split
  · exact .dot
  · next nonempty =>
      have something : 0 < rootSlashes path ∨ normalComponents path ≠ [] := by
        rcases Nat.eq_zero_or_pos (rootSlashes path) with none | some
        · refine .inr fun empty => nonempty ?_
          rw [none, empty]
          rfl
        · exact .inl some
      refine .path (root_slashes_few path) something (fun part member => (proper part member).2)
        ?_ ?_ dots
      · intro member
        exact absurd (proper _ member).1 (by decide)
      · intro member
        exact absurd (proper _ member).1 (by decide)

/-! What stands behind a path. -/

theorem components_from_append (current first later : List Char) :
    componentsFrom current (first ++ '/' :: later) =
      componentsFrom current first ++ components later := by
  induction first generalizing current with
  | nil => simp [componentsFrom, components]
  | cons c rest ih =>
      rw [List.cons_append, componentsFrom, componentsFrom]
      split
      · rw [ih, List.cons_append]
      · exact ih (c :: current)

theorem components_append (first later : List Char) :
    components (first ++ '/' :: later) = components first ++ components later :=
  components_from_append [] first later

/-- A path either ends with a slash, or a slash is put behind it. -/
theorem join_cases (base : List Char) {later : List Char} (relative : isAbsolute later = false)
    (present : base ≠ []) :
    (∃ before, base = before ++ ['/'] ∧ joinList base later = before ++ '/' :: later) ∨
      base.getLast? ≠ some '/' ∧ joinList base later = base ++ '/' :: later := by
  have nonempty : base.isEmpty = false := by simpa using present
  unfold joinList
  rw [relative, nonempty, Bool.false_or]
  by_cases ends : base.getLast? = some '/'
  · obtain ⟨before, rfl⟩ := List.getLast?_eq_some_iff.mp ends
    refine .inl ⟨before, rfl, ?_⟩
    simp
  · refine .inr ⟨ends, ?_⟩
    simp [ends]

/-- The components of a reference are taken in behind those of the path before it. -/
theorem normal_steps_join (absolute : Bool) {base later : List Char} (present : base ≠ [])
    (relative : isAbsolute later = false) :
    (components (joinList base later)).foldl (normalStep absolute) [] =
      (components later).foldl (normalStep absolute)
        ((components base).foldl (normalStep absolute) []) := by
  rcases join_cases base relative present with ⟨before, rfl, joined⟩ | ⟨_, joined⟩
  · rw [joined, components_append, components_append, List.foldl_append, List.foldl_append]
    rfl
  · rw [joined, components_append, List.foldl_append]

theorem root_slashes_join {base later : List Char} (present : base ≠ [])
    (relative : isAbsolute later = false) :
    rootSlashes (joinList base later) = rootSlashes base := by
  have leading : (joinList base later).takeWhile (fun c => c == '/') =
      base.takeWhile fun c => c == '/' := by
    rcases join_cases base relative present with ⟨before, rfl, joined⟩ | ⟨solid, joined⟩
    · have behind : ('/' :: later).takeWhile (fun c => c == '/') = ['/'] := by
        rw [List.takeWhile_cons_of_pos rfl, relative_starts_no_slash relative]
      rw [joined, List.takeWhile_append, List.takeWhile_append, behind]
      rfl
    · rw [joined, List.takeWhile_append, if_neg]
      intro whole
      have slashes : base.all (fun c => c == '/') = true := by
        rw [← (List.takeWhile_prefix _).eq_of_length whole]
        exact List.all_takeWhile
      have last := List.all_eq_true.mp slashes _ (List.getLast_mem present)
      exact solid (by rw [List.getLast?_eq_some_getLast present, eq_of_beq last])
  unfold rootSlashes
  rw [leading]

theorem join_nonempty {base reference : List Char} (present : reference ≠ []) :
    joinList base reference ≠ [] := by
  unfold joinList
  split
  · exact present
  · split
    · exact fun empty => present (List.append_eq_nil_iff.mp empty).2
    · exact fun empty => List.cons_ne_nil _ _ (List.append_eq_nil_iff.mp empty).2

theorem normal_components_join {base later : List Char} (present : base ≠ [])
    (relative : isAbsolute later = false) :
    normalComponents (joinList base later) =
      ((components later).foldl (normalStep (isAbsolute base))
        (normalComponents base).reverse).reverse := by
  have absolute : isAbsolute (joinList base later) = isAbsolute base := by
    rw [absolute_of_slashes, absolute_of_slashes, root_slashes_join present relative]
  rw [normalComponents, absolute, normal_steps_join _ present relative, normalComponents,
    List.reverse_reverse]

theorem normalize_nonempty (path : List Char) : normalizeList path ≠ [] := by
  unfold normalizeList
  dsimp only
  split
  · exact List.cons_ne_nil _ _
  · next nonempty => exact fun empty => nonempty (List.isEmpty_iff.mpr empty)

/-- A reference leads on from the normal form of a path as it does from the path itself. -/
theorem normalize_join_normalize {base later : List Char} (present : base ≠ [])
    (relative : isAbsolute later = false) :
    normalizeList (joinList (normalizeList base) later) = normalizeList (joinList base later) := by
  have remains := normalize_nonempty base
  apply normalize_congr
  · rw [root_slashes_join remains relative, root_slashes_join present relative,
      root_slashes_normalize]
  · rw [normal_components_join remains relative, normal_components_join present relative,
      absolute_normalize, normal_components_normalize]

theorem join_parts (base : List Char) {first later : List Char} (present : first ≠ [])
    (solid : first.getLast? ≠ some '/') (relative : isAbsolute later = false) :
    joinList base (first ++ '/' :: later) = joinList (joinList base first) later := by
  have starts : isAbsolute (first ++ '/' :: later) = isAbsolute first := by
    cases first with
    | nil => exact absurd rfl present
    | cons c rest => rfl
  have last : (joinList base first).getLast? = first.getLast? := by
    unfold joinList
    split
    · rfl
    · split
      · rw [List.getLast?_append, List.getLast?_eq_some_getLast present]
        rfl
      · rw [List.append_cons, List.getLast?_append, List.getLast?_eq_some_getLast present]
        rfl
  rcases join_cases (joinList base first) relative (join_nonempty present) with
    ⟨before, ended, _⟩ | ⟨_, joined⟩
  · rw [ended, List.getLast?_concat] at last
    exact absurd last.symm solid
  · rw [joined]
    unfold joinList
    rw [starts]
    split
    · rfl
    · split
      · rw [List.append_assoc]
      · rw [List.append_assoc, List.cons_append]

/-- Every resolved path is in normal form, and resolving it again from nowhere changes nothing. A
reference of two parts leads to where its second part leads from the path of the first. -/
theorem resolve_part_by_part (base reference : String) :
    IsNormal (resolve base reference).toList ∧
      resolve "" (resolve base reference) = resolve base reference ∧
      ∀ later : String, reference ≠ "" → reference.toList.getLast? ≠ some '/' →
        later.toList.head? ≠ some '/' →
        resolve base (reference ++ "/" ++ later) = resolve (resolve base reference) later := by
  have resolved : (resolve base reference).toList =
      normalizeList (joinList base.toList reference.toList) := String.toList_ofList
  refine ⟨?_, ?_, ?_⟩
  · rw [resolved]
    exact normalize_is_normal _
  · have alone (path : List Char) : joinList [] path = path := by
      unfold joinList
      split <;> rfl
    rw [resolve, resolved, String.toList_empty, resolveList, alone, normalize_normalize]
    rfl
  · intro later present solid relative
    have nonempty : reference.toList ≠ [] := by simpa using present
    have starts : isAbsolute later.toList = false := beq_eq_false_iff_ne.mpr relative
    have written : (reference ++ "/" ++ later).toList =
        reference.toList ++ '/' :: later.toList := by
      simp
    rw [resolve, resolve, resolved, written, resolveList, resolveList,
      join_parts base.toList nonempty solid starts,
      normalize_join_normalize (join_nonempty nonempty) starts]

/-- Pairs of dots that lead out of a directory, from a base behind two slashes. -/
theorem resolve_part_by_part_upwards :
    "../../x/..".toList.getLast? ≠ some '/' ∧ "../y".toList.head? ≠ some '/' ∧
      resolve "//a" "../../x/.." = "//" ∧
      resolve "//a" ("../../x/.." ++ "/" ++ "../y") = "//y" := by
  have solid : "../../x/..".toList.getLast? ≠ some '/' := by decide
  have starts : "../y".toList.head? ≠ some '/' := by decide
  have first : resolve "//a" "../../x/.." = "//" := by decide
  have parts := (resolve_part_by_part "//a" "../../x/..").2.2 "../y" (by decide) solid starts
  refine ⟨solid, starts, first, ?_⟩
  rw [parts, first]
  decide

end SelectorAudit.Path
