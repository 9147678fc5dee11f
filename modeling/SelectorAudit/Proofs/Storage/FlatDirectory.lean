import SelectorAudit.Proofs.Storage.CleanPaths

/-!
# Directories of files only

Where a directory holds nothing but files, discovery lists the wanted names among them, and each
file is read under the path that discovery gives: following that path name by name leads back to the
directory, and opening it changes nothing about it.
-/

namespace SelectorAudit

set_option autoImplicit false

namespace Path

theorem components_from_segment (current segment rest : List Char) (whole : '/' ∉ segment) :
    componentsFrom current (segment ++ '/' :: rest) =
      (current.reverse ++ segment) :: componentsFrom [] rest := by
  induction segment generalizing current with
  | nil => simp [componentsFrom]
  | cons first more ih =>
      rw [List.mem_cons, not_or] at whole
      have step := ih (first :: current) whole.2
      simpa [componentsFrom, Ne.symm whole.1] using step

theorem components_from_last (current segment : List Char) (whole : '/' ∉ segment) :
    componentsFrom current segment = [current.reverse ++ segment] := by
  induction segment generalizing current with
  | nil => simp [componentsFrom]
  | cons first more ih =>
      rw [List.mem_cons, not_or] at whole
      have step := ih (first :: current) whole.2
      simpa [componentsFrom, Ne.symm whole.1] using step

theorem render_head (c : Char) (part : List Char) (more : List (List Char)) :
    ∃ tail, render ((c :: part) :: more) = c :: tail := by
  cases more with
  | nil => exact ⟨part, by simp [render]⟩
  | cons second later => exact ⟨part ++ '/' :: render (second :: later), render_cons _ _ _⟩

/-- Components without slashes are found again in the path that they make up. -/
theorem components_render {parts : List (List Char)} (present : parts ≠ [])
    (whole : ∀ part ∈ parts, '/' ∉ part) : components (render parts) = parts := by
  induction parts with
  | nil => exact absurd rfl present
  | cons first rest ih =>
      obtain ⟨here, others⟩ := List.forall_mem_cons.mp whole
      cases rest with
      | nil => simpa [render, components] using components_from_last [] first here
      | cons second more =>
          rw [render_cons, components, components_from_segment [] first _ here]
          exact congrArg (List.cons _) (ih (List.cons_ne_nil second more) others)

end Path

namespace Storage

structure FileName (name : String) : Prop where
  nonempty : name.toList ≠ []
  whole : '/' ∉ name.toList
  clean : nul ∉ name.toList
  notHere : name ≠ here
  notAbove : name ≠ above
  short : name.utf8ByteSize ≤ nameLimit

instance (name : String) : Decidable (FileName name) :=
  decidable_of_iff
    (name.toList ≠ [] ∧ '/' ∉ name.toList ∧ nul ∉ name.toList ∧ name ≠ here ∧ name ≠ above ∧
      name.utf8ByteSize ≤ nameLimit)
    ⟨fun ⟨nonempty, whole, clean, notHere, notAbove, short⟩ =>
        ⟨nonempty, whole, clean, notHere, notAbove, short⟩,
      fun ⟨nonempty, whole, clean, notHere, notAbove, short⟩ =>
        ⟨nonempty, whole, clean, notHere, notAbove, short⟩⟩

/-- The absolute path of a file in a directory, as discovery spells it. -/
def filePath (location : Location) (name : String) : String :=
  directoryPath location ++ name

theorem file_path_list (location : Location) (name : String) :
    (filePath location name).toList =
      '/' :: Path.render ((location ++ [name]).map String.toList) := by
  have joined : ((location.map fun part => part ++ "/").flatMap String.toList) ++ name.toList =
      Path.render ((location ++ [name]).map String.toList) := by
    induction location with
    | nil => simp [Path.render]
    | cons first rest ih =>
        obtain ⟨second, more, shape⟩ : ∃ second more,
            (rest ++ [name]).map String.toList = second :: more := by
          cases rest <;> exact ⟨_, _, rfl⟩
        rw [shape] at ih
        rw [List.cons_append, List.map_cons, List.map_cons, shape, Path.render_cons, ← ih]
        simp
  rw [← joined]
  simp [filePath, directoryPath]

section

variable {location : Location} {name : String}

theorem file_path_components (names : ∀ part ∈ location ++ [name], FileName part) :
    Path.components (filePath location name).toList =
      [] :: (location ++ [name]).map String.toList := by
  rw [file_path_list]
  have inner : Path.components (Path.render ((location ++ [name]).map String.toList)) =
      (location ++ [name]).map String.toList := by
    apply Path.components_render
    · simp
    · intro part member
      obtain ⟨source, among, rfl⟩ := List.mem_map.mp member
      exact (names source among).whole
  exact congrArg (List.cons []) inner

theorem file_path_last (named : FileName name) :
    (filePath location name).toList.getLast? = name.toList.getLast? := by
  have shape : (filePath location name).toList = (directoryPath location).toList ++ name.toList :=
    String.toList_append
  rw [shape, List.getLast?_append, List.getLast?_eq_some_getLast named.nonempty]
  rfl

/-- The directory in front of a file plays no part in the file's extension. -/
theorem file_path_extension (whole : '/' ∉ name.toList) :
    Path.extensionList (filePath location name).toList = Path.extensionList name.toList := by
  have inName : ∀ c ∈ name.toList.reverse, (c != '/') = true := by
    intro c member
    rw [bne_iff_ne]
    rintro rfl
    exact whole (List.mem_reverse.mp member)
  obtain ⟨before, ends⟩ : ∃ before, (directoryPath location).toList = before ++ ['/'] := by
    rcases List.eq_nil_or_concat location with rfl | ⟨parents, last, rfl⟩
    · exact ⟨[], by simp [directoryPath]⟩
    · exact ⟨(directoryPath parents).toList ++ last.toList, by simp [directoryPath]⟩
  have sameBase : Path.baseNameList (filePath location name).toList =
      Path.baseNameList name.toList := by
    have kept := @List.takeWhile_append_of_pos _ _ _ [] inName
    rw [List.append_nil] at kept
    unfold Path.baseNameList filePath
    rw [String.toList_append, ends, List.reverse_append, List.takeWhile_append_of_pos inName, kept]
    simp
  unfold Path.extensionList
  rw [sameBase]

theorem file_path_steps (names : ∀ part ∈ location ++ [name], FileName part) :
    stepsOf (filePath location name) = location ++ [name] := by
  have named := names name (List.mem_append_right _ List.mem_cons_self)
  have inside : (filePath location name).toList.getLast? ≠ some '/' := by
    rw [file_path_last named]
    intro slash
    exact named.whole (List.mem_of_getLast? slash)
  have kept : ((location ++ [name]).map String.toList).filter (fun part => part != []) =
      (location ++ [name]).map String.toList := by
    apply List.filter_eq_self.mpr
    intro part member
    obtain ⟨source, among, rfl⟩ := List.mem_map.mp member
    exact bne_iff_ne.mpr (names source among).nonempty
  unfold stepsOf
  dsimp only
  rw [if_neg (by rw [beq_iff_eq]; exact inside), file_path_components names]
  rw [List.filter_cons_of_neg (by simp), kept, List.map_map]
  exact List.map_id'' (fun part => String.ofList_toList) _

/-- Such a path is already in the form in which files are opened. -/
theorem file_path_tidy (names : ∀ part ∈ location ++ [name], FileName part) :
    Path.tidy (filePath location name) = filePath location name := by
  have kept : ((location ++ [name]).map String.toList).filter
      (fun part => part != [] && part != ['.']) = (location ++ [name]).map String.toList := by
    apply List.filter_eq_self.mpr
    intro part member
    obtain ⟨source, among, rfl⟩ := List.mem_map.mp member
    have named := names source among
    rw [Bool.and_eq_true, bne_iff_ne, bne_iff_ne]
    refine ⟨named.nonempty, ?_⟩
    intro dot
    exact named.notHere (String.toList_inj.mp dot)
  have single : Path.rootSlashes (filePath location name).toList = 1 := by
    obtain ⟨first, more, shape⟩ : ∃ first more, location ++ [name] = first :: more := by
      cases location <;> exact ⟨_, _, rfl⟩
    have named := names first (by rw [shape]; exact List.mem_cons_self)
    rw [file_path_list, shape, List.map_cons]
    cases letters : first.toList with
    | nil => exact absurd letters named.nonempty
    | cons c letters' =>
        have other : (c == '/') = false := by
          rw [beq_eq_false_iff_ne]
          intro slash
          apply named.whole
          rw [letters, slash]
          exact List.mem_cons_self
        obtain ⟨tail, rendered⟩ := Path.render_head c letters' (more.map String.toList)
        rw [rendered]
        simp [Path.rootSlashes, other]
  unfold Path.tidy
  dsimp only
  rw [single, file_path_components names, List.filter_cons_of_neg (by simp), kept]
  rw [if_neg (by simp)]
  rw [← String.toList_inj, String.toList_ofList, file_path_list]
  rfl

theorem descend_append (entry : Entry) (first later : Location) :
    entry.descend? (first ++ later) = (entry.descend? first).bind fun found =>
      found.descend? later := by
  induction first generalizing entry with
  | nil => rw [List.nil_append, Entry.descend?]; rfl
  | cons name rest ih =>
      cases entry with
      | file content => simp [Entry.descend?]
      | link target => simp [Entry.descend?]
      | directory entries =>
          rw [List.cons_append, Entry.descend?, Entry.descend?]
          cases entries.lookup name with
          | none => rfl
          | some child => exact ih child

theorem descend_cons {entry found : Entry} {name : String} {rest : Location}
    (leads : entry.descend? (name :: rest) = some found) :
    ∃ entries child, entry = .directory entries ∧ entries.lookup name = some child ∧
      child.descend? rest = some found := by
  cases entry with
  | file content => simp [Entry.descend?] at leads
  | link target => simp [Entry.descend?] at leads
  | directory entries =>
      rw [Entry.descend?] at leads
      split at leads
      · rename_i child inside
        exact ⟨entries, child, rfl, inside, leads⟩
      · cases leads

theorem follow_into {tree : FileTree} {links : Nat} {start rest : Location}
    {entries : List (String × Entry)} {child : Entry}
    (there : tree.at? start = some (.directory entries))
    (inside : entries.lookup name = some child) (solid : ∀ target, child ≠ .link target)
    (named : FileName name) :
    tree.follow links start (name :: rest) = tree.follow links (start ++ [name]) rest := by
  rw [FileTree.follow, there]
  dsimp only
  rw [if_neg (by rw [beq_iff_eq]; exact named.notHere),
    if_neg (by rw [beq_iff_eq]; exact named.notAbove),
    if_neg (Nat.not_lt.mpr named.short), inside]
  cases child with
  | file content => rfl
  | directory inner => rfl
  | link target => exact absurd rfl (solid target)

theorem at_through {tree : FileTree} {start rest : Location} {entry : Entry}
    (present : tree.at? (start ++ name :: rest) = some entry) :
    ∃ entries child, tree.at? start = some (.directory entries) ∧
      entries.lookup name = some child ∧ child.descend? rest = some entry := by
  rw [FileTree.at?, descend_append, Option.bind_eq_some_iff] at present
  obtain ⟨above, there, leads⟩ := present
  obtain ⟨entries, child, rfl, inside, below⟩ := descend_cons leads
  exact ⟨entries, child, there, inside, below⟩

theorem follow_names {tree : FileTree} {links : Nat} {start names more : Location} {entry : Entry}
    (present : tree.at? (start ++ names) = some entry) (solid : ∀ target, entry ≠ .link target)
    (fine : ∀ name ∈ names, FileName name) :
    tree.follow links start (names ++ more) = tree.follow links (start ++ names) more := by
  induction names generalizing start with
  | nil => rw [List.nil_append, List.append_nil]
  | cons first rest ih =>
      obtain ⟨named, others⟩ := List.forall_mem_cons.mp fine
      obtain ⟨entries, child, there, inside, below⟩ := at_through present
      have childSolid : ∀ target, child ≠ .link target := by
        rintro target rfl
        cases rest with
        | nil =>
            rw [Entry.descend?] at below
            exact solid target (Option.some.inj below).symm
        | cons second more => simp [Entry.descend?] at below
      have shape : start ++ first :: rest = (start ++ [first]) ++ rest := by simp
      rw [shape] at present ⊢
      rw [List.cons_append, follow_into there inside childSolid named]
      exact ih present others

end

section

variable {tree : FileTree} {location : Location} {name : String}
  {entries : List (String × Entry)} {content : Text.Utf8.Bytes}

theorem at_file (there : tree.at? location = some (.directory entries))
    (listed : entries.lookup name = some (.file content)) :
    tree.at? (location ++ [name]) = some (.file content) := by
  rw [FileTree.at?] at there ⊢
  rw [descend_append, there, Option.bind_some, Entry.descend?, listed]
  rfl

theorem find_solid {entry : Entry} (present : tree.at? (location ++ [name]) = some entry)
    (solid : ∀ target, entry ≠ .link target) (names : ∀ part ∈ location ++ [name], FileName part)
    (short : (filePath location name).utf8ByteSize < pathLimit) :
    tree.find (filePath location name) = .ok entry := by
  have nonempty : ¬ (filePath location name).isEmpty = true := by
    rw [String.isEmpty_iff, ← String.toList_inj, file_path_list]
    exact List.cons_ne_nil _ _
  have located : tree.locate (filePath location name) = .ok (location ++ [name]) := by
    have led := @follow_names tree linkLimit [] (location ++ [name]) [] _ present solid names
    rw [List.append_nil, List.nil_append, FileTree.follow] at led
    unfold FileTree.locate
    rw [if_neg nonempty, if_neg (Nat.not_le.mpr short), file_path_steps names, led]
  unfold FileTree.find
  rw [located]
  dsimp only [bind, Except.bind]
  rw [present]

theorem find_file (there : tree.at? location = some (.directory entries))
    (listed : entries.lookup name = some (.file content))
    (names : ∀ part ∈ location ++ [name], FileName part)
    (short : (filePath location name).utf8ByteSize < pathLimit) :
    tree.find (filePath location name) = .ok (.file content) :=
  find_solid (at_file there listed) (by rintro _ ⟨⟩) names short

theorem read_file {limit : Int} (there : tree.at? location = some (.directory entries))
    (listed : entries.lookup name = some (.file content))
    (names : ∀ part ∈ location ++ [name], FileName part)
    (short : (filePath location name).utf8ByteSize < pathLimit)
    (small : (content.length : Int) ≤ limit) :
    tree.read (filePath location name) limit = .text (FileTree.textOf content) := by
  have found := find_file there listed names short
  have clean : ¬ ((filePath location name).toList.any fun c => c.toNat == 0) = true := by
    rw [any_nul_iff]
    obtain ⟨inDirectory, inName⟩ := List.forall_mem_append.mp names
    exact clean_append (clean_directory_path fun part member => (inDirectory part member).clean)
      (inName name List.mem_cons_self).clean
  have within : ¬ limit < ((Entry.file content).size : Int) := Int.not_lt.mpr small
  unfold FileTree.read
  rw [if_neg clean, found]
  dsimp only
  rw [if_neg within, file_path_tidy names]
  unfold FileTree.open?
  rw [found]
  rfl

/-- Among files only, those are found whose names are wanted. -/
theorem files_among_flat (search : Search)
    (flat : ∀ entry ∈ entries, ∃ content, entry.2 = Entry.file content) :
    filesAmong tree search location "" entries =
      (entries.map Prod.fst).filter fun name => search.wants name name := by
  induction entries with
  | nil => unfold filesAmong; rfl
  | cons first rest ih =>
      obtain ⟨other, entry⟩ := first
      obtain ⟨⟨content, plain⟩, others⟩ := List.forall_mem_cons.mp flat
      dsimp only at plain
      subst plain
      unfold filesAmong
      dsimp only
      rw [ih others, String.empty_append, List.map_cons, List.filter_cons]
      split
      · rfl
      · rfl

/-- The wanted files of a directory without subdirectories are listed in order of their paths. -/
theorem discover_flat {root : String} {extensions patterns : List String}
    (resolved : tree.resolve linkLimit [] (stepsOf root) = location)
    (there : tree.at? location = some (.directory entries))
    (flat : ∀ entry ∈ entries, ∃ content, entry.2 = Entry.file content) :
    discover tree root extensions patterns =
      Text.sort (((entries.map Prod.fst).filter fun name =>
        (Search.of extensions patterns).wants name name).map (filePath location)) := by
  unfold discover
  dsimp only
  rw [resolved, there]
  dsimp only
  rw [files_among_flat _ flat]
  rfl

end

/-! Projects. -/

/-- A root leads to a directory that holds some files and nothing else, and the system accepts the
paths of these files. -/
structure HoldsFiles (tree : FileTree) (root : String) (location : Location)
    (files : List (String × Text.Utf8.Bytes)) : Prop where
  resolved : tree.resolve linkLimit [] (stepsOf root) = location
  held : ∃ entries, tree.at? location = some (.directory entries) ∧
    entries.Perm (files.map fun file => (file.1, Entry.file file.2))
  names : ∀ part ∈ location ++ files.map Prod.fst, FileName part
  short : ∀ file ∈ files, (filePath location file.1).utf8ByteSize < pathLimit

theorem lookup_of_mem {entries : List (String × Entry)} {name : String} {entry : Entry}
    (distinct : (entries.map Prod.fst).Nodup) (member : (name, entry) ∈ entries) :
    entries.lookup name = some entry := by
  induction entries with
  | nil => cases member
  | cons first rest ih =>
      rw [List.map_cons, List.nodup_cons] at distinct
      rcases List.mem_cons.mp member with same | later
      · rw [← same, List.lookup_cons_self]
      · have other : (name == first.1) = false := by
          rw [beq_eq_false_iff_ne]
          intro same
          exact distinct.1 (same ▸ List.mem_map.mpr ⟨_, later, rfl⟩)
        rw [List.lookup_cons, other]
        exact ih distinct.2 later

section

variable {tree : FileTree} {root : String} {location : Location}
  {files : List (String × Text.Utf8.Bytes)}

theorem read_held {name : String} {content : Text.Utf8.Bytes} {limit : Int}
    (project : HoldsFiles tree root location files) (distinct : (files.map Prod.fst).Nodup)
    (member : (name, content) ∈ files) (small : (content.length : Int) ≤ limit) :
    tree.read (filePath location name) limit = .text (FileTree.textOf content) := by
  obtain ⟨entries, there, same⟩ := project.held
  have sameNames : (entries.map Prod.fst).Perm (files.map Prod.fst) := by
    simpa [Function.comp_def] using same.map Prod.fst
  have listed : entries.lookup name = some (.file content) :=
    lookup_of_mem (sameNames.nodup_iff.mpr distinct)
      (same.mem_iff.mpr (List.mem_map.mpr ⟨(name, content), member, rfl⟩))
  have names : ∀ part ∈ location ++ [name], FileName part := by
    intro part among
    rcases List.mem_append.mp among with inside | last
    · exact project.names part (List.mem_append_left _ inside)
    · rw [List.mem_singleton.mp last]
      exact project.names name (List.mem_append_right _ (List.mem_map_of_mem member))
  exact read_file there listed names (project.short _ member) small

theorem resolve_folder (entries : List (String × Entry)) {folder : String}
    (named : FileName folder) :
    FileTree.resolve ⟨[(folder, .directory entries)]⟩ linkLimit []
      (stepsOf (filePath [] folder)) = [folder] := by
  have names : ∀ part ∈ [] ++ [folder], FileName part :=
    List.forall_mem_singleton.mpr named
  rw [file_path_steps names]
  simp [FileTree.resolve, FileTree.at?, FileTree.root, Entry.descend?, named.notHere,
    named.notAbove]

theorem discover_single {name : String} {extensions patterns : List String}
    (project : HoldsFiles tree root location files)
    (wanted : (files.map Prod.fst).filter
      (fun name => (Search.of extensions patterns).wants name name) = [name]) :
    discover tree root extensions patterns = [filePath location name] := by
  obtain ⟨entries, there, same⟩ := project.held
  have sameNames : (entries.map Prod.fst).Perm (files.map Prod.fst) := by
    simpa [Function.comp_def] using same.map Prod.fst
  have flat : ∀ entry ∈ entries, ∃ content, entry.2 = Entry.file content := by
    intro entry member
    obtain ⟨file, _, shape⟩ := List.mem_map.mp (same.mem_iff.mp member)
    exact ⟨file.2, by rw [← shape]⟩
  have single := sameNames.filter fun name => (Search.of extensions patterns).wants name name
  rw [wanted, List.perm_singleton] at single
  rw [discover_flat project.resolved there flat, single]
  exact List.mergeSort_singleton _

end

end Storage

end SelectorAudit
