import SelectorAudit.Proofs.Text.Words
import SelectorAudit.Storage.Discovery

/-!
# Paths without a NUL

No file system has a name that holds a NUL, so no path that is found by looking through one holds a
NUL either. Paths can be made up elsewhere, though: a reference from one file to another is any
text. Resolving a reference brings in no characters but those of the base and the reference, slashes
and dots, so a NUL in the resulting path can only come from the reference.
-/

namespace SelectorAudit

set_option autoImplicit false

/-- The character that no path may hold. -/
def nul : Char := Char.ofNat 0

namespace Path

theorem components_from_subset (current text : List Char) :
    ∀ part ∈ componentsFrom current text, part ⊆ current ++ text := by
  induction text generalizing current with
  | nil =>
      intro part member
      rw [List.mem_singleton.mp member]
      intro c inside
      exact List.mem_append_left _ (List.mem_reverse.mp inside)
  | cons first rest ih =>
      intro part member
      unfold componentsFrom at member
      split at member
      · rcases List.mem_cons.mp member with here | later
        · rw [here]
          intro c inside
          exact List.mem_append_left _ (List.mem_reverse.mp inside)
        · intro c inside
          have found := ih [] part later inside
          exact List.mem_append_right _ (List.mem_cons_of_mem first found)
      · intro c inside
        have found := ih (first :: current) part member inside
        simp only [List.mem_append, List.mem_cons] at found ⊢
        rcases found with (here | before) | later
        · exact Or.inr (Or.inl here)
        · exact Or.inl before
        · exact Or.inr (Or.inr later)

theorem components_subset (path : List Char) : ∀ part ∈ components path, part ⊆ path :=
  components_from_subset [] path

/-- One step of the normal form keeps components or adds the one it looks at. -/
theorem normal_step_mem {absolute : Bool} {kept : List (List Char)} {component part : List Char}
    (member : part ∈ normalStep absolute kept component) :
    part ∈ kept ∨ part = component ∨ part = parent := by
  unfold normalStep at member
  split at member
  · exact Or.inl member
  · split at member
    · split at member
      · split at member
        · cases member
        · exact Or.inr (Or.inr (List.mem_singleton.mp member))
      · split at member
        · rcases List.mem_cons.mp member with dots | before
          · exact Or.inr (Or.inr dots)
          · exact Or.inl before
        · exact Or.inl (List.mem_cons_of_mem _ member)
    · rcases List.mem_cons.mp member with here | before
      · exact Or.inr (Or.inl here)
      · exact Or.inl before

theorem normal_steps_mem {absolute : Bool} {kept parts : List (List Char)} {part : List Char}
    (member : part ∈ parts.foldl (normalStep absolute) kept) :
    part ∈ kept ∨ part ∈ parts ∨ part = parent := by
  induction parts generalizing kept with
  | nil => exact Or.inl member
  | cons first rest ih =>
      rcases ih member with before | later | dots
      · rcases normal_step_mem before with old | here | dots
        · exact Or.inl old
        · exact Or.inr (Or.inl (by rw [here]; exact List.mem_cons_self))
        · exact Or.inr (Or.inr dots)
      · exact Or.inr (Or.inl (List.mem_cons_of_mem first later))
      · exact Or.inr (Or.inr dots)

theorem normal_components_subset (path : List Char) :
    ∀ part ∈ normalComponents path, part ⊆ '.' :: path := by
  intro part member c inside
  rcases normal_steps_mem (List.mem_reverse.mp member) with none | found | dots
  · cases none
  · exact List.mem_cons_of_mem _ (components_subset path part found inside)
  · rw [dots] at inside
    simp [parent] at inside
    rw [inside]
    exact List.mem_cons_self

theorem render_cons (first second : List Char) (more : List (List Char)) :
    render (first :: second :: more) = first ++ '/' :: render (second :: more) := by
  simp [render, List.intercalate, List.intersperse]

theorem mem_render {parts : List (List Char)} {c : Char} (member : c ∈ render parts) :
    c = '/' ∨ ∃ part ∈ parts, c ∈ part :=
  Text.mem_intercalate member

theorem normalize_subset (path : List Char) : normalizeList path ⊆ '/' :: '.' :: path := by
  intro c member
  unfold normalizeList at member
  dsimp only at member
  split at member
  · rw [List.mem_singleton.mp member]
    exact List.mem_cons_of_mem _ List.mem_cons_self
  · rcases List.mem_append.mp member with slashes | rendered
    · rw [List.eq_of_mem_replicate slashes]
      exact List.mem_cons_self
    · rcases mem_render rendered with slash | ⟨part, among, inside⟩
      · rw [slash]
        exact List.mem_cons_self
      · exact List.mem_cons_of_mem _ (normal_components_subset path part among inside)

theorem join_subset (base reference : List Char) :
    joinList base reference ⊆ '/' :: (base ++ reference) := by
  intro c member
  unfold joinList at member
  split at member
  · exact List.mem_cons_of_mem _ (List.mem_append_right _ member)
  · split at member
    · exact List.mem_cons_of_mem _ member
    · simp only [List.mem_append, List.mem_cons] at member ⊢
      rcases member with inBase | slash | inReference
      · exact Or.inr (Or.inl inBase)
      · exact Or.inl slash
      · exact Or.inr (Or.inr inReference)

theorem dir_name_subset (path : List Char) : dirNameList path ⊆ path := by
  have head : ∀ c ∈ (path.reverse.dropWhile fun c => c != '/').reverse, c ∈ path := by
    intro c member
    exact List.mem_reverse.mp ((List.dropWhile_sublist _).mem (List.mem_reverse.mp member))
  intro c member
  unfold dirNameList at member
  dsimp only at member
  split at member
  · exact head c member
  · apply head c
    exact List.mem_reverse.mp ((List.dropWhile_sublist _).mem (List.mem_reverse.mp member))

theorem nul_of_resolve {file url : String} (clean : nul ∉ file.toList)
    (found : nul ∈ (resolve (dirName file) url).toList) : nul ∈ url.toList := by
  unfold resolve dirName resolveList at found
  rw [String.toList_ofList, String.toList_ofList] at found
  have outside : nul ∉ dirNameList file.toList := fun inside => clean (dir_name_subset _ inside)
  have joined := normalize_subset _ found
  simp only [List.mem_cons] at joined
  rcases joined with slash | dot | joined
  · exact absurd slash (by decide)
  · exact absurd dot (by decide)
  · have parts := join_subset _ _ joined
    rw [List.mem_cons, List.mem_append] at parts
    rcases parts with slash | base | reference
    · exact absurd slash (by decide)
    · exact absurd base outside
    · exact reference

end Path

namespace Storage

mutual

/-- Whether no name below an entry holds a NUL. -/
def Entry.cleanNames : Entry → Bool
  | .file _ => true
  | .link _ => true
  | .directory entries => cleanEntries entries

def cleanEntries : List (String × Entry) → Bool
  | [] => true
  | (name, entry) :: rest => !name.toList.contains nul && entry.cleanNames && cleanEntries rest

end

theorem clean_cons {name : String} {entry : Entry} {rest : List (String × Entry)} :
    cleanEntries ((name, entry) :: rest) = true ↔
      nul ∉ name.toList ∧ entry.cleanNames = true ∧ cleanEntries rest = true := by
  simp [cleanEntries, and_assoc]

theorem clean_lookup {entries : List (String × Entry)} {name : String} {entry : Entry}
    (clean : cleanEntries entries = true) (found : entries.lookup name = some entry) :
    nul ∉ name.toList ∧ entry.cleanNames = true := by
  induction entries with
  | nil => cases found
  | cons first rest ih =>
      obtain ⟨other, child⟩ := first
      obtain ⟨here, below, others⟩ := clean_cons.mp clean
      rw [List.lookup_cons] at found
      split at found
      · rename_i same
        rw [eq_of_beq same, ← Option.some.inj found]
        exact ⟨here, below⟩
      · exact ih others found

/-- Every name on the way to an entry is clean, and so is what lies below it. -/
theorem clean_descend {entry found : Entry} {location : Location}
    (clean : entry.cleanNames = true) (leads : entry.descend? location = some found) :
    (∀ name ∈ location, nul ∉ name.toList) ∧ found.cleanNames = true := by
  induction location generalizing entry with
  | nil =>
      rw [Entry.descend?] at leads
      rw [← Option.some.inj leads]
      exact ⟨List.forall_mem_nil _, clean⟩
  | cons name rest ih =>
      cases entry with
      | file content => simp [Entry.descend?] at leads
      | link target => simp [Entry.descend?] at leads
      | directory entries =>
          rw [Entry.cleanNames] at clean
          rw [Entry.descend?] at leads
          split at leads
          · rename_i child inside
            obtain ⟨here, below⟩ := clean_lookup clean inside
            obtain ⟨names, end_⟩ := ih below leads
            exact ⟨List.forall_mem_cons.mpr ⟨here, names⟩, end_⟩
          · cases leads

theorem clean_append {first later : String} (before : nul ∉ first.toList)
    (behind : nul ∉ later.toList) : nul ∉ (first ++ later).toList := by
  rw [String.toList_append, List.mem_append]
  exact not_or.mpr ⟨before, behind⟩

theorem clean_wanted {search : Search} {name relative : String} (clean : nul ∉ relative.toList) :
    ∀ path ∈ (if search.wants name relative then [relative] else []), nul ∉ path.toList := by
  intro path member
  split at member
  · rw [List.mem_singleton.mp member]
    exact clean
  · cases member

theorem clean_files_among (tree : FileTree) (search : Search) :
    ∀ (entries : List (String × Entry)) (location : Location) (within : String),
      nul ∉ within.toList → cleanEntries entries = true →
      ∀ path ∈ filesAmong tree search location within entries, nul ∉ path.toList
  | [], location, within, above, clean => by
      intro path member
      unfold filesAmong at member
      cases member
  | (name, entry) :: rest, location, within, above, clean => by
      obtain ⟨here, below, others⟩ := clean_cons.mp clean
      have relative := clean_append above here
      intro path member
      unfold filesAmong at member
      rcases List.mem_append.mp member with first | behind
      · cases entry with
        | file content => exact clean_wanted relative path first
        | link target =>
            dsimp only at first
            split at first
            · cases first
            · exact clean_wanted relative path first
        | directory inner =>
            rw [Entry.cleanNames] at below
            dsimp only at first
            split at first
            · cases first
            · exact clean_files_among tree search inner _ _ (clean_append relative (by decide))
                below path first
      · exact clean_files_among tree search rest location within above others path behind

theorem clean_directory_path {location : Location} (clean : ∀ name ∈ location, nul ∉ name.toList) :
    nul ∉ (directoryPath location).toList := by
  unfold directoryPath
  apply clean_append (by decide)
  induction location with
  | nil => decide
  | cons name rest ih =>
      obtain ⟨here, others⟩ := List.forall_mem_cons.mp clean
      rw [List.map_cons, String.join_cons]
      exact clean_append (clean_append here (by decide)) (ih others)

theorem clean_discover {tree : FileTree} (clean : tree.root.cleanNames = true) (root : String)
    (extensions patterns : List String) :
    ∀ path ∈ discover tree root extensions patterns, nul ∉ path.toList := by
  intro path member
  unfold discover at member
  dsimp only at member
  split at member
  · rename_i entries present
    obtain ⟨names, below⟩ := clean_descend clean present
    rw [Entry.cleanNames] at below
    obtain ⟨relative, among, shape⟩ := List.mem_map.mp (List.mem_mergeSort.mp member)
    have inside := clean_files_among tree _ entries _ "" (by decide) below relative among
    rw [← shape, String.toList_append, List.mem_append]
    exact not_or.mpr ⟨clean_directory_path names, inside⟩
  · cases member

theorem any_nul_iff (text : List Char) :
    (text.any fun c => c.toNat == 0) = true ↔ nul ∈ text := by
  rw [List.any_eq_true]
  constructor
  · rintro ⟨c, member, zero⟩
    have same : c = nul := Char.toNat_inj.mp (by simpa [nul] using zero)
    rwa [← same]
  · intro member
    exact ⟨nul, member, rfl⟩

theorem read_breaks_down_iff (tree : FileTree) (path : String) (limit : Int) :
    (∃ message, tree.read path limit = .breakdown message) ↔ nul ∈ path.toList := by
  have marked := any_nul_iff path.toList
  unfold FileTree.read
  split
  · rename_i holds
    exact iff_of_true ⟨_, rfl⟩ (marked.mp holds)
  · rename_i lacks
    apply iff_of_false
    · rintro ⟨message, broken⟩
      split at broken
      · cases broken
      · cases broken
      · split at broken
        · cases broken
        · split at broken
          · cases broken
          · cases broken
    · exact fun holds => lacks (marked.mpr holds)

end Storage

end SelectorAudit
