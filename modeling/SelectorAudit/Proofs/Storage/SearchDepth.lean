import SelectorAudit.Storage.Discovery

/-!
# The depth of a search

A search gets no deeper than the directories are nested, whatever the patterns exclude.
-/

namespace SelectorAudit.Storage

set_option autoImplicit false

def levelsAmong : List (String × Entry) → Nat
  | [] => 0
  | (_, .directory entries) :: rest => max (levelsAmong entries + 1) (levelsAmong rest)
  | (_, .file _) :: rest => levelsAmong rest
  | (_, .link _) :: rest => max 1 (levelsAmong rest)

theorem depth_among_le (tree : FileTree) (search : Search) (location : Location) (within : String)
    (entries : List (String × Entry)) :
    depthAmong tree search location within entries ≤ levelsAmong entries := by
  fun_induction levelsAmong entries generalizing location within with
  | case1 =>
      unfold depthAmong
      exact Nat.le_refl 0
  | case2 rest name entries below later =>
      unfold depthAmong
      dsimp only
      refine Nat.max_le.mpr ⟨Nat.le_trans ?_ (Nat.le_max_left _ _),
        Nat.le_trans (later location within) (Nat.le_max_right _ _)⟩
      split
      · exact Nat.zero_le _
      · split
        · exact Nat.le_add_left _ _
        · exact Nat.add_le_add_right (below _ _) 1
  | case3 rest name content later =>
      unfold depthAmong
      exact Nat.max_le.mpr ⟨Nat.zero_le _, later location within⟩
  | case4 rest name target later =>
      unfold depthAmong
      dsimp only
      refine Nat.max_le.mpr ⟨Nat.le_trans ?_ (Nat.le_max_left _ _),
        Nat.le_trans (later location within) (Nat.le_max_right _ _)⟩
      split
      · exact Nat.zero_le _
      · split <;> decide

theorem nested_of_search_depth {tree : FileTree} {root : String} {patterns : List String}
    {levels : Nat} (deep : levels < searchDepth tree root patterns) :
    ∃ entries, tree.at? (tree.resolve linkLimit [] (stepsOf root)) = some (.directory entries) ∧
      levels < levelsAmong entries := by
  unfold searchDepth at deep
  dsimp only at deep
  split at deep
  · rename_i entries found
    split at deep
    · exact ⟨entries, found, Nat.lt_of_lt_of_le deep (depth_among_le _ _ _ _ _)⟩
    · exact absurd deep (Nat.not_lt_zero levels)
  · exact absurd deep (Nat.not_lt_zero levels)

end SelectorAudit.Storage
