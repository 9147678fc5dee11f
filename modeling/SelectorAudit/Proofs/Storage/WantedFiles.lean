import Mathlib.Data.List.Nodup
import SelectorAudit.Proofs.Storage.FoundPaths
import SelectorAudit.Proofs.Storage.GlobMatching

/-!
# The files that discovery is to find

All files below a directory can be listed without asking what is wanted. Discovery looks through the
same tree but passes over whole directories; what it finds are the listed files of which neither the
path nor a directory on the way to them is excluded, and it gives each of them once and in order. If
every pattern ends in a star, a pattern that excludes a directory excludes whatever lies below it, so
passing over the directory saves work and changes nothing.
-/

namespace SelectorAudit.Storage

set_option autoImplicit false

def foldersPath (folders : Location) : String :=
  String.join (folders.map fun name => name ++ "/")

@[simp] theorem foldersPath_nil : foldersPath [] = "" := rfl

@[simp] theorem foldersPath_cons (name : String) (folders : Location) :
    foldersPath (name :: folders) = name ++ "/" ++ foldersPath folders := by
  simp [foldersPath]

theorem file_path_below (location folders : Location) (name : String) :
    filePath (location ++ folders) name =
      directoryPath location ++ (foldersPath folders ++ name) := by
  simp [filePath, directoryPath, foldersPath, String.append_assoc]

/-! All files. -/

def Entry.isFile (tree : FileTree) (location : Location) (name : String) : Entry → Bool
  | .file _ => true
  | .link _ => !tree.linksToDirectory location name
  | .directory _ => false

def FileTree.holdsFile (tree : FileTree) (location : Location) (name : String) : Bool :=
  (tree.at? (location ++ [name])).any (Entry.isFile tree location name)

/-- All files among the entries of a directory and below them, each given by the directories that
lead to it and its name. -/
def filesBelow (tree : FileTree) (location : Location) :
    List (String × Entry) → List (Location × String)
  | [] => []
  | (name, entry) :: rest =>
      let found :=
        match entry with
        | .directory entries =>
            (filesBelow tree (location ++ [name]) entries).map fun file =>
              (name :: file.1, file.2)
        | .file _ => [([], name)]
        | .link _ => if tree.linksToDirectory location name then [] else [([], name)]
      found ++ filesBelow tree location rest

section

variable {tree : FileTree} {location : Location} {name : String} {entry : Entry}
  {entries : List (String × Entry)}

theorem files_below_cons (tree : FileTree) (location : Location) (first : String × Entry)
    (rest : List (String × Entry)) :
    filesBelow tree location (first :: rest) =
      filesBelow tree location [first] ++ filesBelow tree location rest := by
  obtain ⟨name, entry⟩ := first
  cases entry <;> simp [filesBelow]

theorem mem_files_below_entries {file : Location × String} :
    file ∈ filesBelow tree location entries ↔
      ∃ entry ∈ entries, file ∈ filesBelow tree location [entry] := by
  induction entries with
  | nil => simp [filesBelow]
  | cons first rest ih => simp [files_below_cons tree location first rest, ih]

theorem mem_files_below_here {last : String} :
    ([], last) ∈ filesBelow tree location [(name, entry)] ↔
      name = last ∧ entry.isFile tree location last = true := by
  cases entry with
  | file content => simp [filesBelow, Entry.isFile, eq_comm]
  | directory inner => simp [filesBelow, Entry.isFile]
  | link target =>
      by_cases same : name = last
      · subst same
        cases linked : tree.linksToDirectory location name <;>
          simp [filesBelow, Entry.isFile, linked]
      · cases linked : tree.linksToDirectory location name <;>
          simp [filesBelow, linked, same, Ne.symm same]

/-- A file further down lies below a directory among the entries. -/
theorem mem_files_below_deeper {first last : String} {folders : Location} :
    (first :: folders, last) ∈ filesBelow tree location [(name, entry)] ↔
      name = first ∧ ∃ inner, entry = .directory inner ∧
        (folders, last) ∈ filesBelow tree (location ++ [first]) inner := by
  cases entry with
  | file content => simp [filesBelow]
  | link target => cases linked : tree.linksToDirectory location name <;> simp [filesBelow, linked]
  | directory inner =>
      by_cases same : name = first
      · subst same
        simp [filesBelow]
      · simp [filesBelow, same]

theorem mem_files_below (proper : (Entry.directory entries).WellNamed) (folders : Location)
    (last : String) :
    (folders, last) ∈ filesBelow tree location entries ↔
      ∃ found, (Entry.directory entries).descend? (folders ++ [last]) = some found ∧
        found.isFile tree (location ++ folders) last = true := by
  induction folders generalizing entries location with
  | nil =>
      cases proper with
      | directory distinct named below =>
          rw [mem_files_below_entries, List.nil_append, List.append_nil]
          constructor
          · rintro ⟨⟨name, entry⟩, member, here⟩
            obtain ⟨rfl, file⟩ := mem_files_below_here.mp here
            refine ⟨entry, ?_, file⟩
            rw [descend_first, lookup_of_mem distinct member, Option.bind_some, Entry.descend?]
          · rintro ⟨found, leads, file⟩
            rw [descend_first, Option.bind_eq_some_iff] at leads
            obtain ⟨child, inside, same⟩ := leads
            rw [Entry.descend?] at same
            obtain rfl := Option.some.inj same
            exact ⟨_, mem_of_lookup inside, mem_files_below_here.mpr ⟨rfl, file⟩⟩
  | cons first folders ih =>
      have regroup : location ++ first :: folders = location ++ [first] ++ folders := by simp
      cases proper with
      | directory distinct named below =>
          rw [mem_files_below_entries, List.cons_append, regroup]
          constructor
          · rintro ⟨⟨name, entry⟩, member, deeper⟩
            obtain ⟨rfl, inner, rfl, listed⟩ := mem_files_below_deeper.mp deeper
            obtain ⟨found, leads, file⟩ := (ih (below _ member)).mp listed
            refine ⟨found, ?_, file⟩
            rw [descend_first, lookup_of_mem distinct member, Option.bind_some, leads]
          · rintro ⟨found, leads, file⟩
            rw [descend_first, Option.bind_eq_some_iff] at leads
            obtain ⟨child, inside, leads⟩ := leads
            have member := mem_of_lookup inside
            obtain ⟨inner, rfl⟩ : ∃ inner, child = .directory inner := by
              cases child with
              | directory inner => exact ⟨inner, rfl⟩
              | file | link => cases folders <;> simp [Entry.descend?] at leads
            have listed := (ih (below _ member)).mpr ⟨found, leads, file⟩
            exact ⟨_, member, mem_files_below_deeper.mpr ⟨rfl, inner, rfl, listed⟩⟩

/-- The first name on the way to a listed file is that of the entry it is listed for. -/
theorem files_below_single_head {file : Location × String}
    (member : file ∈ filesBelow tree location [(name, entry)]) :
    (file.1 ++ [file.2]).head? = some name := by
  obtain ⟨folders, last⟩ := file
  cases folders with
  | nil =>
      obtain ⟨rfl, _⟩ := mem_files_below_here.mp member
      rfl
  | cons first folders =>
      obtain ⟨rfl, _⟩ := mem_files_below_deeper.mp member
      rfl

theorem files_below_nodup : ∀ {entries : List (String × Entry)} {location : Location},
    (Entry.directory entries).WellNamed → (filesBelow tree location entries).Nodup
  | [], location, proper => by
      unfold filesBelow
      exact List.nodup_nil
  | (name, entry) :: rest, location, .directory distinct named below => by
      have behind : (filesBelow tree location rest).Nodup := by
        apply files_below_nodup
        obtain ⟨_, namedRest⟩ := List.forall_mem_cons.mp named
        obtain ⟨_, belowRest⟩ := List.forall_mem_cons.mp below
        exact .directory (List.nodup_cons.mp distinct).2 namedRest belowRest
      have here : (filesBelow tree location [(name, entry)]).Nodup := by
        cases entry with
        | file content => simp [filesBelow]
        | link target => cases linked : tree.linksToDirectory location name <;>
            simp [filesBelow, linked]
        | directory inner =>
            have deeper : (filesBelow tree (location ++ [name]) inner).Nodup :=
              files_below_nodup (below _ List.mem_cons_self)
            have listed : filesBelow tree location [(name, .directory inner)] =
                (filesBelow tree (location ++ [name]) inner).map fun file =>
                  (name :: file.1, file.2) := by
              simp [filesBelow]
            rw [listed]
            apply deeper.map
            rintro ⟨folders, last⟩ ⟨others, other⟩ same
            simpa using same
      rw [files_below_cons, List.nodup_append]
      refine ⟨here, behind, ?_⟩
      rintro file member other later rfl
      obtain ⟨⟨second, child⟩, among, later⟩ := mem_files_below_entries.mp later
      have same := (files_below_single_head member).symm.trans (files_below_single_head later)
      apply (List.nodup_cons.mp distinct).1
      rw [Option.some.inj same]
      exact List.mem_map.mpr ⟨_, among, rfl⟩

end

/-! Discovery as a choice among all files. -/

/-- Whether discovery gets to the directory that names lead to, one after the other. -/
def Search.enters (search : Search) (within : String) : Location → Bool
  | [] => true
  | folder :: folders =>
      !search.excludes (within ++ folder ++ "/") && search.enters (within ++ folder ++ "/") folders

def Search.gives (search : Search) (within : String) (file : Location × String) : Bool :=
  search.enters within file.1 && search.wants file.2 (within ++ (foldersPath file.1 ++ file.2))

theorem path_below_folder (within name : String) (folders : Location) (last : String) :
    within ++ (foldersPath (name :: folders) ++ last) =
      within ++ name ++ "/" ++ (foldersPath folders ++ last) := by
  simp only [foldersPath_cons, String.append_assoc]

theorem gives_below (search : Search) (within name : String) (file : Location × String) :
    search.gives within (name :: file.1, file.2) =
      (!search.excludes (within ++ name ++ "/") &&
        search.gives (within ++ name ++ "/") file) := by
  unfold Search.gives
  rw [path_below_folder, Search.enters, Bool.and_assoc]

/-- Discovery gives the files that it gets to and that are wanted, in the order of the list. -/
theorem files_among_chosen (tree : FileTree) (search : Search) :
    ∀ (entries : List (String × Entry)) (location : Location) (within : String),
      filesAmong tree search location within entries =
        ((filesBelow tree location entries).filter (search.gives within)).map fun file =>
          within ++ (foldersPath file.1 ++ file.2)
  | [], location, within => by
      unfold filesAmong filesBelow
      rfl
  | (name, entry) :: rest, location, within => by
      have behind := files_among_chosen tree search rest location within
      have alone : (if search.wants name (within ++ name) then [within ++ name] else []) =
          (([([], name)] : List (Location × String)).filter (search.gives within)).map fun file =>
            within ++ (foldersPath file.1 ++ file.2) := by
        cases wanted : search.wants name (within ++ name) <;>
          simp [Search.gives, Search.enters, wanted]
      unfold filesAmong filesBelow
      rw [behind, List.filter_append, List.map_append]
      dsimp only
      congr 1
      cases entry with
      | file content => exact alone
      | link target =>
          dsimp only
          split
          · rfl
          · exact alone
      | directory inner =>
          have deeper := files_among_chosen tree search inner (location ++ [name])
            (within ++ name ++ "/")
          dsimp only
          rw [deeper, List.filter_map, List.map_map]
          cases excluded : search.excludes (within ++ name ++ "/") with
          | true => simp [Function.comp_def, gives_below, excluded]
          | false =>
              simp only [Function.comp_def, gives_below, excluded, path_below_folder,
                Bool.not_false, Bool.true_and, Bool.false_eq_true, if_false]

/-! Exclusion. -/

/-- Whether some pattern stands for a relative path, with or without a dot and a slash before it. -/
def Excluded (patterns : List String) (relative : String) : Prop :=
  ∃ pattern ∈ patterns, Glob.Stands (Glob.parse pattern.toList) ("./" ++ relative).toList ∨
    Glob.Stands (Glob.parse pattern.toList) relative.toList

theorem excludes_iff (extensions patterns : List String) (relative : String) :
    (Search.of extensions patterns).excludes relative = true ↔ Excluded patterns relative := by
  simp [Search.excludes, Search.of, Excluded, Glob.matches_text_iff]

/-- The directories on the way to a place below `within`, the place itself included. -/
theorem enters_iff (search : Search) (within : String) (folders : Location) :
    search.enters within folders = true ↔
      ∀ outer, outer <+: folders → outer ≠ [] →
        search.excludes (within ++ foldersPath outer) = false := by
  induction folders generalizing within with
  | nil =>
      apply iff_of_true rfl
      intro outer before nonempty
      exact absurd (List.prefix_nil.mp before) nonempty
  | cons folder folders ih =>
      rw [Search.enters, Bool.and_eq_true, Bool.not_eq_true', ih]
      constructor
      · rintro ⟨here, deeper⟩ outer before nonempty
        rcases List.prefix_cons_iff.mp before with rfl | ⟨inner, rfl, further⟩
        · exact absurd rfl nonempty
        · by_cases last : inner = []
          · simpa [last, String.append_assoc] using here
          · simpa [String.append_assoc] using deeper inner further last
      · intro entered
        constructor
        · have first := entered [folder] ⟨folders, rfl⟩ (List.cons_ne_nil _ _)
          simpa [String.append_assoc] using first
        · intro inner before _
          have deeper := entered (folder :: inner) ((List.prefix_cons_inj folder).mpr before)
            (List.cons_ne_nil _ _)
          simpa [String.append_assoc] using deeper

theorem excluded_below {patterns : List String}
    (starred : ∀ pattern ∈ patterns, pattern.toList.getLast? = some '*') {outer : String}
    (excluded : Excluded patterns outer) (inner : String) : Excluded patterns (outer ++ inner) := by
  obtain ⟨pattern, member, stands⟩ := excluded
  have star : [Glob.Item.star] <:+ Glob.parse pattern.toList := by
    apply Glob.parse_star
    obtain ⟨before, whole⟩ := List.getLast?_eq_some_iff.mp (starred pattern member)
    exact ⟨before, whole.symm⟩
  refine ⟨pattern, member, ?_⟩
  rcases stands with dotted | plain
  · left
    rw [← String.append_assoc, String.toList_append]
    exact Glob.stands_append_of_star star dotted inner.toList
  · right
    rw [String.toList_append]
    exact Glob.stands_append_of_star star plain inner.toList

/-! The theorem. -/

/-- A file that is looked for: what counts as a file, has one of some extensions in whatever case,
and is not excluded. -/
structure Wanted (tree : FileTree) (location : Location) (extensions patterns : List String)
    (folders : Location) (name : String) : Prop where
  present : tree.holdsFile (location ++ folders) name = true
  extension : ∃ listed ∈ extensions, lowered listed = lowered (Path.extension name)
  unmatched : ¬ Excluded patterns (foldersPath folders ++ name)

/-- No directory on the way to a file is excluded. -/
def Reached (patterns : List String) (folders : Location) : Prop :=
  ∀ outer, outer <+: folders → outer ≠ [] → ¬ Excluded patterns (foldersPath outer)

section

variable {tree : FileTree} {location : Location} {entries : List (String × Entry)}

theorem directory_of_file {folders : Location} {name : String}
    (present : tree.holdsFile (location ++ folders) name = true) :
    ∃ entries, tree.at? location = some (.directory entries) := by
  unfold FileTree.holdsFile at present
  cases there : tree.at? (location ++ folders ++ [name]) with
  | none =>
      rw [there] at present
      cases present
  | some entry =>
      obtain ⟨first, more, shape⟩ : ∃ first more, folders ++ [name] = first :: more := by
        cases folders <;> exact ⟨_, _, rfl⟩
      rw [List.append_assoc, shape] at there
      obtain ⟨entries, _, found, _⟩ := at_through there
      exact ⟨entries, found⟩

theorem holds_file_iff (there : tree.at? location = some (.directory entries))
    (proper : (Entry.directory entries).WellNamed) (folders : Location) (name : String) :
    tree.holdsFile (location ++ folders) name = true ↔
      (folders, name) ∈ filesBelow tree location entries := by
  rw [FileTree.at?] at there
  rw [mem_files_below proper, FileTree.holdsFile, FileTree.at?, List.append_assoc, descend_append,
    there, Option.bind_some, Option.any_eq_true]

theorem gives_iff (extensions patterns : List String) (folders : Location) (name : String) :
    (Search.of extensions patterns).gives "" (folders, name) = true ↔
      ((∃ listed ∈ extensions, lowered listed = lowered (Path.extension name)) ∧
        ¬ Excluded patterns (foldersPath folders ++ name)) ∧ Reached patterns folders := by
  have kept : ∀ relative, (Search.of extensions patterns).excludes relative = false ↔
      ¬ Excluded patterns relative := by
    intro relative
    rw [← excludes_iff extensions, Bool.not_eq_true]
  have listed : (Search.of extensions patterns).extensions.contains
      (lowered (Path.extension name)) = true ↔
      ∃ listed ∈ extensions, lowered listed = lowered (Path.extension name) := by
    rw [List.contains_iff_mem]
    exact List.mem_map
  unfold Search.gives Search.wants Reached
  rw [Bool.and_eq_true, Bool.and_eq_true, enters_iff, Bool.not_eq_true', listed, and_comm]
  simp only [String.empty_append, kept]

theorem mem_discover_iff (proper : tree.root.WellNamed) (root : String)
    (extensions patterns : List String) (path : String) :
    path ∈ discover tree root extensions patterns ↔
      ∃ folders name,
        path = filePath (tree.resolve linkLimit [] (stepsOf root) ++ folders) name ∧
        Wanted tree (tree.resolve linkLimit [] (stepsOf root)) extensions patterns folders name ∧
        Reached patterns folders := by
  generalize resolved : tree.resolve linkLimit [] (stepsOf root) = location
  unfold discover
  dsimp only
  rw [resolved]
  split
  · rename_i entries there
    have below := (well_named_descend proper there).2
    rw [Text.sort, List.mem_mergeSort, files_among_chosen, List.map_map]
    simp only [List.mem_map, List.mem_filter, Function.comp_apply, String.empty_append, Prod.exists,
      ← file_path_below, gives_iff, ← holds_file_iff there below]
    constructor
    · rintro ⟨folders, name, ⟨present, ⟨extension, unmatched⟩, reached⟩, rfl⟩
      exact ⟨folders, name, rfl, ⟨present, extension, unmatched⟩, reached⟩
    · rintro ⟨folders, name, rfl, ⟨present, extension, unmatched⟩, reached⟩
      exact ⟨folders, name, ⟨present, ⟨extension, unmatched⟩, reached⟩, rfl⟩
  · rename_i elsewhere
    apply iff_of_false (List.not_mem_nil)
    rintro ⟨folders, name, _, wanted, _⟩
    obtain ⟨entries, there⟩ := directory_of_file wanted.present
    exact elsewhere entries there

theorem discover_ascending (proper : tree.root.WellNamed) (root : String)
    (extensions patterns : List String) :
    (discover tree root extensions patterns).Pairwise (· < ·) := by
  unfold discover
  dsimp only
  generalize tree.resolve linkLimit [] (stepsOf root) = location
  split
  · rename_i entries there
    obtain ⟨outer, below⟩ := well_named_descend proper there
    rw [files_among_chosen, List.map_map]
    simp only [Function.comp_def, String.empty_append, ← file_path_below]
    have distinct : (((filesBelow tree location entries).filter
        ((Search.of extensions patterns).gives "")).map fun file =>
          filePath (location ++ file.1) file.2).Nodup := by
      apply List.Nodup.map_on _ ((files_below_nodup below).filter _)
      intro file listed other listedToo same
      have named : ∀ file ∈ filesBelow tree location entries,
          ∀ part ∈ location ++ file.1 ++ [file.2], FileName part := by
        rintro ⟨folders, name⟩ member
        obtain ⟨found, leads, _⟩ := (mem_files_below below folders name).mp member
        rw [List.append_assoc]
        exact List.forall_mem_append.mpr ⟨outer, (well_named_descend below leads).1⟩
      have parts := file_path_inj (named _ (List.mem_filter.mp listed).1)
        (named _ (List.mem_filter.mp listedToo).1) same
      rw [List.append_assoc, List.append_assoc] at parts
      obtain ⟨folders, last⟩ := List.append_inj' (List.append_cancel_left parts) rfl
      exact Prod.ext folders (List.cons.inj last).1
    have unique := (List.mergeSort_perm _ fun a b => decide (a ≤ b)).nodup_iff.mpr distinct
    apply ((sort_ordered _).and unique).imp
    rintro a b ⟨before, other⟩
    rw [← String.not_le]
    exact fun behind => other (String.le_antisymm before behind)
  · exact List.Pairwise.nil

/-- If every pattern ends in a star, a file in an excluded directory is excluded itself. -/
theorem reached_of_unmatched {patterns : List String}
    (starred : ∀ pattern ∈ patterns, pattern.toList.getLast? = some '*') {folders : Location}
    {name : String} (unmatched : ¬ Excluded patterns (foldersPath folders ++ name)) :
    Reached patterns folders := by
  rintro outer ⟨inner, rfl⟩ _ excluded
  apply unmatched
  have nested : foldersPath (outer ++ inner) ++ name =
      foldersPath outer ++ (foldersPath inner ++ name) := by
    simp [foldersPath, String.append_assoc]
  rw [nested]
  exact excluded_below starred excluded _

end

/-- Discovery gives exactly the wanted files, and passing over directories only saves work. The paths
ascend strictly; they are those of the files that have a wanted extension, are not excluded, and lie
in no excluded directory. If every pattern ends in a star, the condition on directories says nothing
new. -/
theorem discover_gives_exactly_wanted {tree : FileTree} (proper : tree.root.WellNamed)
    (root : String) (extensions patterns : List String) :
    let location := tree.resolve linkLimit [] (stepsOf root)
    (discover tree root extensions patterns).Pairwise (· < ·) ∧
      (∀ path, path ∈ discover tree root extensions patterns ↔
        ∃ folders name, path = filePath (location ++ folders) name ∧
          Wanted tree location extensions patterns folders name ∧ Reached patterns folders) ∧
      ((∀ pattern ∈ patterns, pattern.toList.getLast? = some '*') →
        ∀ path, path ∈ discover tree root extensions patterns ↔
          ∃ folders name, path = filePath (location ++ folders) name ∧
            Wanted tree location extensions patterns folders name) := by
  intro location
  have exact := mem_discover_iff proper root extensions patterns
  refine ⟨discover_ascending proper root extensions patterns, exact, ?_⟩
  intro starred path
  rw [exact]
  constructor
  · rintro ⟨folders, name, spelled, wanted, _⟩
    exact ⟨folders, name, spelled, wanted⟩
  · rintro ⟨folders, name, spelled, wanted⟩
    exact ⟨folders, name, spelled, wanted, reached_of_unmatched starred wanted.unmatched⟩

/-- A directory with an excluded one in it. -/
def nestedEntries : List (String × Entry) :=
  [("lib", .directory [("Main.CSS", .file []), ("dist", .directory [("old.css", .file [])])])]

theorem nested_entries_well_named :
    (FileTree.root ⟨[("p", .directory nestedEntries)]⟩).WellNamed := by
  have dist : (Entry.directory [("old.css", .file [])]).WellNamed :=
    .directory (by decide) (by decide) (List.forall_mem_singleton.mpr (.file []))
  have lib : (Entry.directory [("Main.CSS", .file []),
      ("dist", .directory [("old.css", .file [])])]).WellNamed :=
    .directory (by decide) (by decide)
      (List.forall_mem_cons.mpr ⟨.file [], List.forall_mem_singleton.mpr dist⟩)
  have entries : (Entry.directory nestedEntries).WellNamed :=
    .directory (by decide) (by decide) (List.forall_mem_singleton.mpr lib)
  exact .directory (by decide) (by decide) (List.forall_mem_singleton.mpr entries)

/-- The pattern ends in a star, and the file in the excluded directory is excluded itself. -/
theorem discover_gives_exactly_wanted_nested :
    (FileTree.root ⟨[("p", .directory nestedEntries)]⟩).WellNamed ∧
      (∀ pattern ∈ ["**/dist/**"], pattern.toList.getLast? = some '*') ∧
      Excluded ["**/dist/**"] "lib/dist/old.css" ∧
      filePath ["p", "lib"] "Main.CSS" ∈
        discover ⟨[("p", .directory nestedEntries)]⟩ (filePath [] "p") [".css"] ["**/dist/**"] := by
  have starred : ∀ pattern ∈ ["**/dist/**"], pattern.toList.getLast? = some '*' := by decide
  have excluded : ∀ relative, Excluded ["**/dist/**"] relative ↔
      (Search.of [".css"] ["**/dist/**"]).excludes relative = true :=
    fun relative => (excludes_iff [".css"] _ relative).symm
  refine ⟨nested_entries_well_named, starred, (excluded _).mpr (by decide +kernel), ?_⟩
  have told := discover_gives_exactly_wanted nested_entries_well_named (filePath [] "p") [".css"]
    ["**/dist/**"]
  rw [resolve_folder nestedEntries (by decide)] at told
  apply (told.2.2 starred _).mpr
  refine ⟨["lib"], "Main.CSS", rfl, by decide +kernel, ⟨".css", by decide, by decide +kernel⟩, ?_⟩
  rw [excluded]
  decide +kernel

end SelectorAudit.Storage
