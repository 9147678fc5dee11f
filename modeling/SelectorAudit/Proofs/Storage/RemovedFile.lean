import SelectorAudit.Proofs.Storage.FoundPaths
import SelectorAudit.Proofs.Storage.NormalPaths

/-!
# Trees without a file

What changes when one file is taken out of a tree. Seen from its top, every other entry stays as it
is, so a path that did not lead to the file leads where it led before, and a path that did leads
nowhere. Discovery finds the same files less the one, in the same order, and every path that led
elsewhere is answered by the same text, or by a fault as before.
-/

namespace SelectorAudit.Storage

set_option autoImplicit false

def Entry.top : Entry → Entry
  | .directory _ => .directory []
  | entry => entry

def FileTree.shows (tree : FileTree) (location : Location) : Option Entry :=
  (tree.at? location).map Entry.top

def FileTree.without (tree : FileTree) (location : Location) : FileTree :=
  ⟨(tree.root.remove location).entries⟩

theorem remove_file_path (tree : FileTree) {folder : Location} {name : String}
    (names : ∀ part ∈ folder ++ [name], FileName part) :
    tree.remove (filePath folder name) = tree.without (folder ++ [name]) := by
  unfold FileTree.remove FileTree.without
  rw [literal_file_path names]

/-! Entries. -/

theorem lookup_filter_name (entries : List (String × Entry)) (name other : String) :
    (entries.filter fun present => present.1 != name).lookup other =
      if other = name then none else entries.lookup other := by
  induction entries with
  | nil => simp
  | cons first rest ih =>
      obtain ⟨here, entry⟩ := first
      by_cases same : here = name
      · simp only [same, List.filter_cons, bne_self_eq_false, Bool.false_eq_true, if_false, ih,
          lookup_first]
        split <;> rfl
      · simp only [List.filter_cons, bne_iff_ne, ne_eq, same, not_false_eq_true, if_true,
          lookup_first, ih]
        by_cases asked : other = here
        · simp [asked, same]
        · simp [asked]

theorem lookup_put (entries : List (String × Entry)) (name other : String) (entry : Entry) :
    (putEntry name entry entries).lookup other =
      if other = name then some entry else entries.lookup other := by
  induction entries with
  | nil => simp [putEntry, lookup_first]
  | cons first rest ih =>
      obtain ⟨here, present⟩ := first
      by_cases same : here = name
      · simp only [putEntry, same, beq_self_eq_true, if_true, lookup_first]
        split <;> rfl
      · simp only [putEntry, beq_iff_eq, same, if_false, lookup_first, ih]
        by_cases asked : other = here
        · simp [asked, same]
        · simp [asked]

section

variable {content : Text.Utf8.Bytes}

theorem remove_directory (entries : List (String × Entry)) (file : Location) :
    ∃ others, (Entry.directory entries).remove file = .directory others := by
  match file with
  | [] => exact ⟨entries, by rw [Entry.remove]⟩
  | [name] => exact ⟨_, by rw [Entry.remove]⟩
  | name :: second :: more =>
      rw [Entry.remove]
      · cases entries.lookup name with
        | none => exact ⟨entries, rfl⟩
        | some child => exact ⟨_, rfl⟩
      · simp

theorem remove_single {name : String} {entries : List (String × Entry)} :
    (Entry.directory entries).remove [name] =
      .directory (entries.filter fun present => present.1 != name) := by
  rw [Entry.remove]

theorem remove_deep {name : String} {rest : Location} {entries : List (String × Entry)}
    {child : Entry} (inside : entries.lookup name = some child) (deep : rest ≠ []) :
    (Entry.directory entries).remove (name :: rest) =
      .directory (putEntry name (child.remove rest) entries) := by
  cases rest with
  | nil => exact absurd rfl deep
  | cons second more => rw [Entry.remove, inside]; simp

theorem file_descend (rest : Location) :
    (Entry.file content).descend? rest = if rest = [] then some (.file content) else none := by
  cases rest <;> simp [Entry.descend?]

theorem remove_shows {entry : Entry} {file : Location} (nonempty : file ≠ [])
    (present : entry.descend? file = some (.file content)) (location : Location) :
    ((entry.remove file).descend? location).map Entry.top =
      if location = file then none else (entry.descend? location).map Entry.top := by
  induction file generalizing entry location with
  | nil => exact absurd rfl nonempty
  | cons name rest ih =>
      obtain ⟨entries, child, rfl, inside, below⟩ := descend_cons present
      cases location with
      | nil =>
          obtain ⟨others, removed⟩ := remove_directory entries (name :: rest)
          rw [removed]
          simp [Entry.descend?, Entry.top]
      | cons first more =>
          by_cases deep : rest = []
          · rw [deep, Entry.descend?] at below
            rw [deep, remove_single, descend_first, descend_first, lookup_filter_name]
            by_cases same : first = name
            · rw [if_pos same, same, inside, Option.some.inj below, Option.bind_some, file_descend]
              by_cases ended : more = [] <;> simp [ended]
            · simp [same]
          · rw [remove_deep inside deep, descend_first, descend_first, lookup_put]
            by_cases same : first = name
            · simpa [same, inside] using ih deep below more
            · simp [same]

end

section

variable {tree : FileTree} {file : Location} {content : Text.Utf8.Bytes}

theorem file_location_nonempty (present : tree.at? file = some (.file content)) : file ≠ [] := by
  rintro rfl
  simp [FileTree.at?, FileTree.root, Entry.descend?] at present

theorem at_without (tree : FileTree) (file location : Location) :
    (tree.without file).at? location = (tree.root.remove file).descend? location := by
  obtain ⟨others, removed⟩ := remove_directory tree.entries file
  unfold FileTree.at? FileTree.without FileTree.root
  rw [removed]
  rfl

theorem shows_without (present : tree.at? file = some (.file content)) (location : Location) :
    (tree.without file).shows location = if location = file then none else tree.shows location := by
  unfold FileTree.shows
  rw [at_without]
  exact remove_shows (file_location_nonempty present) present location

/-! Following paths. -/

theorem at_snoc {location : Location} {entries : List (String × Entry)}
    (there : tree.at? location = some (.directory entries)) (name : String) :
    tree.at? (location ++ [name]) = entries.lookup name := by
  rw [FileTree.at?] at there ⊢
  rw [descend_append, there, Option.bind_some, descend_first]
  cases entries.lookup name with
  | none => rfl
  | some child => simp [Entry.descend?]

/-- One step on a path depends only on what the tree shows here and behind the next name. -/
theorem follow_step (tree : FileTree) (links : Nat) (location : Location) (name : String)
    (rest : List String) :
    tree.follow links location (name :: rest) =
      if (tree.shows location).any Entry.isDirectory = false then .error .notDirectory
      else if name = here then tree.follow links location rest
      else if name = above then tree.follow links location.dropLast rest
      else if nameLimit < name.utf8ByteSize then .error .nameTooLong
      else
        match tree.shows (location ++ [name]), links with
        | none, _ => .error .noEntry
        | some (.link _), 0 => .error .tooManyLinks
        | some (.link target), links + 1 =>
            tree.follow links (if Path.isAbsolute target.toList then [] else location)
              (stepsOf target ++ rest)
        | some _, _ => tree.follow links (location ++ [name]) rest := by
  rw [FileTree.follow]
  unfold FileTree.shows
  cases there : tree.at? location with
  | none => simp
  | some entry =>
      cases entry with
      | file content => simp [Entry.top, Entry.isDirectory]
      | link target => simp [Entry.top, Entry.isDirectory]
      | directory entries =>
          rw [at_snoc there name]
          cases inside : entries.lookup name with
          | none => simp [Entry.top, Entry.isDirectory, inside]
          | some child =>
              cases child with
              | file content => simp [Entry.top, Entry.isDirectory, inside]
              | directory inner => simp [Entry.top, Entry.isDirectory, inside]
              | link target => cases links <;> simp [Entry.top, Entry.isDirectory, inside]

theorem directory_apart (present : tree.at? file = some (.file content)) {location : Location}
    (there : (tree.shows location).any Entry.isDirectory = true) :
    location ≠ file ∧ location.dropLast ≠ file := by
  unfold FileTree.shows at there
  constructor
  · rintro rfl
    simp [present, Entry.top, Entry.isDirectory] at there
  · rcases List.eq_nil_or_concat location with rfl | ⟨parents, last, rfl⟩
    · exact (file_location_nonempty present).symm
    · rw [List.concat_eq_append] at there ⊢
      rw [List.dropLast_concat]
      rintro rfl
      rw [FileTree.at?] at present there
      rw [descend_append, present, Option.bind_some, file_descend] at there
      simp at there

theorem shows_file (present : tree.at? file = some (.file content)) :
    tree.shows file = some (.file content) := by
  rw [FileTree.shows, present]
  rfl

theorem follow_file (present : tree.at? file = some (.file content)) (links : Nat)
    (rest : List String) :
    (tree.follow links file rest).toOption = if rest = [] then some file else none := by
  cases rest with
  | nil => rw [FileTree.follow]; rfl
  | cons name rest => simp [follow_step, shows_file present, Entry.isDirectory, Except.toOption]

/-- Paths lead where they led before, but no longer to the file. -/
theorem follow_without (present : tree.at? file = some (.file content)) (links : Nat)
    (location : Location) (steps : List String) (apart : location = file → steps ≠ []) :
    ((tree.without file).follow links location steps).toOption =
      (tree.follow links location steps).toOption.filter fun found => found != file := by
  -- On the links that may still be followed and then on the steps, as paths are followed. The file
  -- is met at most once, by the step that names it, since nothing lies below a file.
  match steps with
  | [] =>
      have elsewhere : location ≠ file := fun same => apart same rfl
      rw [FileTree.follow, FileTree.follow]
      simp [Except.toOption, Option.filter, elsewhere]
  | name :: rest =>
      rw [follow_step, follow_step, shows_without present location]
      by_cases there : (tree.shows location).any Entry.isDirectory = true
      · obtain ⟨elsewhere, aboveElsewhere⟩ := directory_apart present there
        have noFault : ¬ (tree.shows location).any Entry.isDirectory = false := by simp [there]
        rw [if_neg elsewhere, if_neg noFault, if_neg noFault]
        by_cases stays : name = here
        · rw [if_pos stays, if_pos stays]
          exact follow_without present links location rest fun same => absurd same elsewhere
        · rw [if_neg stays, if_neg stays]
          by_cases rises : name = above
          · rw [if_pos rises, if_pos rises]
            exact follow_without present links _ rest fun same => absurd same aboveElsewhere
          · rw [if_neg rises, if_neg rises]
            by_cases long : nameLimit < name.utf8ByteSize
            · rw [if_pos long, if_pos long]
              rfl
            · rw [if_neg long, if_neg long, shows_without present (location ++ [name])]
              by_cases reached : location ++ [name] = file
              · rw [if_pos reached, reached, shows_file present]
                dsimp only
                rw [follow_file present]
                by_cases ended : rest = [] <;> simp [ended, Except.toOption, Option.filter]
              · have apart : location ++ [name] = file → rest ≠ [] := fun same =>
                  absurd same reached
                rw [if_neg reached]
                cases shown : tree.shows (location ++ [name]) with
                | none => rfl
                | some entry =>
                    cases entry with
                    | file content => exact follow_without present links _ rest apart
                    | directory inner => exact follow_without present links _ rest apart
                    | link target =>
                        cases links with
                        | zero => rfl
                        | succ links =>
                            apply follow_without present links
                            split
                            · exact fun same => absurd same.symm (file_location_nonempty present)
                            · exact fun same => absurd same elsewhere
      · rw [Bool.not_eq_true] at there
        rw [if_pos there]
        split
        · rfl
        · simp [Except.toOption]
termination_by (links, steps.length)

theorem locate_without (present : tree.at? file = some (.file content)) (path : String) :
    ((tree.without file).locate path).toOption =
      (tree.locate path).toOption.filter fun found => found != file := by
  unfold FileTree.locate
  split
  · rfl
  · split
    · rfl
    · apply follow_without present
      exact fun same => absurd same.symm (file_location_nonempty present)

/-! Reading. -/

def FileTree.seen (tree : FileTree) (path : String) : Option Entry :=
  (tree.find path).toOption.map Entry.top

theorem seen_located (tree : FileTree) (path : String) :
    tree.seen path = (tree.locate path).toOption.bind tree.shows := by
  unfold FileTree.seen FileTree.find
  cases tree.locate path with
  | error fault => rfl
  | ok location =>
      dsimp only [bind, Except.bind, Except.toOption, Option.bind, FileTree.shows]
      cases tree.at? location <;> rfl

theorem seen_without (present : tree.at? file = some (.file content)) {path : String}
    (elsewhere : tree.locate path ≠ .ok file) : (tree.without file).seen path = tree.seen path := by
  rw [seen_located, seen_located, locate_without present]
  cases located : tree.locate path with
  | error fault => rfl
  | ok location =>
      have apart : location ≠ file := by
        rintro rfl
        exact elsewhere located
      simp [Except.toOption, Option.filter, apart, shows_without present]

def Reading.gist : Reading → Reading
  | .fault _ => .fault .missing
  | answer => answer

theorem gist_cases {first second : Reading} (alike : first.gist = second.gist) :
    first = second ∨ ∃ fault other, first = .fault fault ∧ second = .fault other := by
  cases first <;> cases second <;> simp_all [Reading.gist]

def Entry.content? : Entry → Option Text.Utf8.Bytes
  | .file content => some content
  | _ => none

theorem open_seen (tree : FileTree) (path : String) :
    (tree.open? path).toOption = (tree.seen path).bind Entry.content? := by
  unfold FileTree.open? FileTree.seen
  cases tree.find path with
  | error fault => rfl
  | ok entry => cases entry <;> rfl

/-- The gist of an answer is found in what the path shows, as it stands and once it is tidied. -/
theorem read_gist (tree : FileTree) (path : String) (limit : Int) :
    (tree.read path limit).gist =
      if path.toList.any fun c => c.toNat == 0 then .breakdown "embedded null byte"
      else
        match tree.seen path, (tree.seen (Path.tidy path)).bind Entry.content? with
        | some entry, some content =>
            if limit < entry.size then .fault .missing else .text (FileTree.textOf content)
        | _, _ => .fault .missing := by
  rw [← open_seen]
  unfold FileTree.read FileTree.seen
  split
  · rfl
  · cases tree.find path with
    | error fault => cases fault <;> rfl
    | ok entry =>
        have size : entry.top.size = entry.size := by cases entry <;> rfl
        cases tree.open? (Path.tidy path) with
        | error fault =>
            show (if limit < entry.size then _ else _ : Reading).gist = _
            split <;> rfl
        | ok content =>
            show (if limit < entry.size then _ else _ : Reading).gist =
              if limit < entry.top.size then _ else _
            rw [size]
            split <;> rfl

/-- A path that leads elsewhere is answered as before, or by a fault as before. -/
theorem read_without (present : tree.at? file = some (.file content)) {path : String}
    (elsewhere : tree.locate path ≠ .ok file) (tidy : Path.tidy path = path) (limit : Int) :
    ((tree.without file).read path limit).gist = (tree.read path limit).gist := by
  rw [read_gist, read_gist, tidy, seen_without present elsewhere]

/-! Discovery. -/

theorem links_without (present : tree.at? file = some (.file content)) (location : Location)
    (name : String) :
    (tree.without file).linksToDirectory location name =
      tree.linksToDirectory location name := by
  have shown : ∀ tree : FileTree, tree.linksToDirectory location name =
      (tree.follow linkLimit location [name]).toOption.any fun found =>
        (tree.shows found).any Entry.isDirectory := by
    intro tree
    unfold FileTree.linksToDirectory FileTree.shows
    cases tree.follow linkLimit location [name] with
    | error fault => rfl
    | ok found =>
        dsimp only [Except.toOption, Option.any]
        cases tree.at? found with
        | none => rfl
        | some entry => cases entry <;> rfl
  rw [shown, shown, follow_without present linkLimit location [name] (fun _ => by simp)]
  cases tree.follow linkLimit location [name] with
  | error fault => rfl
  | ok found =>
      by_cases same : found = file
      · simp [Except.toOption, Option.filter, same, shows_file present, Entry.isDirectory]
      · simp [Except.toOption, Option.filter, same, shows_without present]

theorem resolve_step (tree : FileTree) (links : Nat) (location : Location) (name : String)
    (rest : List String) :
    tree.resolve links location (name :: rest) =
      if name == here then tree.resolve links location rest
      else if name == above then tree.resolve links location.dropLast rest
      else
        match tree.shows (location ++ [name]), links with
        | some (.link _), 0 => location ++ [name]
        | some (.link target), links + 1 =>
            tree.resolve links (if Path.isAbsolute target.toList then [] else location)
              (stepsOf target ++ rest)
        | _, _ => tree.resolve links (location ++ [name]) rest := by
  rw [FileTree.resolve]
  unfold FileTree.shows
  cases tree.at? (location ++ [name]) with
  | none => rfl
  | some entry =>
      cases entry with
      | file content => rfl
      | directory entries => rfl
      | link target => cases links <;> rfl

theorem resolve_without (present : tree.at? file = some (.file content)) (links : Nat)
    (location : Location) (steps : List String) :
    (tree.without file).resolve links location steps = tree.resolve links location steps := by
  match steps with
  | [] => rw [FileTree.resolve, FileTree.resolve]
  | name :: rest =>
      rw [resolve_step, resolve_step, shows_without present]
      split
      · exact resolve_without present links _ rest
      · split
        · exact resolve_without present links _ rest
        · by_cases reached : location ++ [name] = file
          · rw [if_pos reached, reached, shows_file present]
            exact resolve_without present links _ rest
          · rw [if_neg reached]
            split
            · rfl
            · exact resolve_without present _ _ _
            · exact resolve_without present _ _ rest
termination_by (links, steps.length)

theorem files_among_alike {first second : FileTree} (search : Search)
    (links : ∀ location name,
      second.linksToDirectory location name = first.linksToDirectory location name) :
    ∀ (entries : List (String × Entry)) (location : Location) (within : String),
      filesAmong second search location within entries =
        filesAmong first search location within entries
  | [], location, within => by
      unfold filesAmong
      rfl
  | (name, entry) :: rest, location, within => by
      have behind := files_among_alike search links rest location within
      unfold filesAmong
      rw [behind]
      cases entry with
      | file content => rfl
      | link target => simp only [links]
      | directory inner => simp only [files_among_alike search links inner]

theorem files_among_cons (tree : FileTree) (search : Search) (location : Location)
    (within : String) (first : String × Entry) (rest : List (String × Entry)) :
    filesAmong tree search location within (first :: rest) =
      filesAmong tree search location within [first] ++
        filesAmong tree search location within rest := by
  obtain ⟨name, entry⟩ := first
  cases entry <;> simp [filesAmong]

theorem files_among_append (tree : FileTree) (search : Search) (location : Location)
    (within : String) (first later : List (String × Entry)) :
    filesAmong tree search location within (first ++ later) =
      filesAmong tree search location within first ++
        filesAmong tree search location within later := by
  induction first with
  | nil => simp [filesAmong]
  | cons entry rest ih =>
      rw [List.cons_append, files_among_cons, ih, files_among_cons tree search location within
        entry rest, List.append_assoc]

end

theorem sort_filter (keep : String → Bool) (texts : List String) :
    Text.sort (texts.filter keep) = (Text.sort texts).filter keep := by
  have same : (Text.sort (texts.filter keep)).Perm ((Text.sort texts).filter keep) :=
    (List.mergeSort_perm _ _).trans ((List.mergeSort_perm _ _).filter keep).symm
  apply same.eq_of_pairwise _ (sort_ordered _) ((sort_ordered texts).filter keep)
  intro a b _ _ before behind
  exact String.le_antisymm before behind

section

variable {tree : FileTree} {search : Search} {base within name : String}
  {folder location : Location} {entries : List (String × Entry)}

theorem spelled_below (proper : (Entry.directory entries).WellNamed)
    (outer : ∀ part ∈ location, FileName part) (names : ∀ part ∈ folder ++ [name], FileName part)
    (spelled : base ++ within = directoryPath location) {path : String}
    (member : path ∈ filesAmong tree search location within entries)
    (same : base ++ path = filePath folder name) :
    ∃ first more, folder ++ [name] = location ++ first :: more ∧
      first ∈ entries.map Prod.fst := by
  obtain ⟨parents, last, entry, shape, leads, _⟩ :=
    files_among_spell tree search base entries location within proper spelled path member
  have inner := (well_named_descend proper leads).1
  have equal : folder ++ [name] = location ++ (parents ++ [last]) := by
    rw [← List.append_assoc]
    apply file_path_inj names _ (same.symm.trans shape)
    rw [List.append_assoc]
    exact List.forall_mem_append.mpr ⟨outer, inner⟩
  cases parents with
  | nil => exact ⟨last, [], equal, descend_head leads⟩
  | cons first more => exact ⟨first, more ++ [last], equal, descend_head leads⟩

theorem others_kept (proper : (Entry.directory entries).WellNamed)
    (outer : ∀ part ∈ location, FileName part) (names : ∀ part ∈ folder ++ [name], FileName part)
    (spelled : base ++ within = directoryPath location)
    (apart : ∀ first more, folder ++ [name] = location ++ first :: more →
      first ∉ entries.map Prod.fst) :
    (filesAmong tree search location within entries).filter
        (fun path => base ++ path != filePath folder name) =
      filesAmong tree search location within entries := by
  apply List.filter_eq_self.mpr
  intro path member
  rw [bne_iff_ne]
  intro same
  obtain ⟨first, more, shape, listed⟩ := spelled_below proper outer names spelled member same
  exact apart first more shape listed

theorem well_named_part {part : List (String × Entry)}
    (proper : (Entry.directory entries).WellNamed) (inside : part.Sublist entries) :
    (Entry.directory part).WellNamed := by
  cases proper with
  | directory distinct named below =>
      refine .directory (distinct.sublist (inside.map Prod.fst)) ?_ ?_
      · exact fun entry member => named entry (inside.subset member)
      · exact fun entry member => below entry (inside.subset member)

theorem remove_split {before after : List (String × Entry)} {first : String} {child : Entry}
    (more : Location) (absent : first ∉ before.map Prod.fst) (unique : first ∉ after.map Prod.fst) :
    ((Entry.directory (before ++ (first, child) :: after)).remove (first :: more)).entries =
      before ++ ((Entry.directory [(first, child)]).remove (first :: more)).entries ++ after := by
  have other : ∀ part : List (String × Entry), first ∉ part.map Prod.fst →
      part.filter (fun entry => entry.1 != first) = part := by
    intro part absent
    apply List.filter_eq_self.mpr
    intro entry member
    rw [bne_iff_ne]
    rintro rfl
    exact absent (List.mem_map_of_mem member)
  by_cases deep : more = []
  · rw [deep, remove_single, remove_single]
    simp [Entry.entries, other before absent, other after unique]
  · have here : (before ++ (first, child) :: after).lookup first = some child := by
      apply List.lookup_eq_some_iff.mpr
      refine ⟨before, after, rfl, ?_⟩
      intro entry member
      rw [bne_iff_ne]
      rintro rfl
      exact absent (List.mem_map_of_mem member)
    rw [remove_deep here deep, remove_deep List.lookup_cons_self deep]
    dsimp only [Entry.entries]
    clear here
    induction before with
    | nil => simp [putEntry]
    | cons entry rest ih =>
        rw [List.map_cons, List.mem_cons, not_or] at absent
        simp [putEntry, Ne.symm absent.1, ih absent.2]

theorem well_named_unique {before after : List (String × Entry)} {first : String} {child : Entry}
    (proper : (Entry.directory (before ++ (first, child) :: after)).WellNamed) :
    first ∉ before.map Prod.fst ∧ first ∉ after.map Prod.fst := by
  cases proper with
  | directory distinct named below =>
      rw [List.map_append, List.map_cons, List.nodup_append, List.nodup_cons] at distinct
      exact ⟨fun member => distinct.2.2 _ member _ List.mem_cons_self rfl, distinct.2.1.1⟩

/-- What is found less below the one entry that leads to the file is found less in the whole
directory. -/
theorem files_among_beside {first : String} {more : Location} {child : Entry}
    (proper : (Entry.directory entries).WellNamed) (outer : ∀ part ∈ location, FileName part)
    (names : ∀ part ∈ folder ++ [name], FileName part)
    (spelled : base ++ within = directoryPath location)
    (placed : folder ++ [name] = location ++ first :: more)
    (inside : entries.lookup first = some child)
    (alone : filesAmong tree search location within
        (((Entry.directory [(first, child)]).remove (first :: more)).entries) =
      (filesAmong tree search location within [(first, child)]).filter
        fun path => base ++ path != filePath folder name) :
    filesAmong tree search location within
        ((Entry.directory entries).remove (first :: more)).entries =
      (filesAmong tree search location within entries).filter
        fun path => base ++ path != filePath folder name := by
  obtain ⟨before, after, rfl, _⟩ := List.lookup_eq_some_iff.mp inside
  obtain ⟨absent, unique⟩ := well_named_unique proper
  have kept : ∀ part : List (String × Entry),
      part.Sublist (before ++ (first, child) :: after) → first ∉ part.map Prod.fst →
      (filesAmong tree search location within part).filter
          (fun path => base ++ path != filePath folder name) =
        filesAmong tree search location within part := by
    intro part sub unlisted
    apply others_kept (well_named_part proper sub) outer names spelled
    intro other later shape
    rw [placed] at shape
    rw [← (List.cons.inj (List.append_cancel_left shape)).1]
    exact unlisted
  have beforeKept := kept before (List.sublist_append_left _ _) absent
  have afterKept := kept after
    ((List.sublist_cons_self _ _).trans (List.sublist_append_right _ _)) unique
  rw [remove_split more absent unique, files_among_append, files_among_append, alone,
    files_among_append, files_among_cons tree search location within (first, child) after,
    List.filter_append, List.filter_append, beforeKept, afterKept, List.append_assoc]

theorem files_among_removed {content : Text.Utf8.Bytes} {rest : Location} (deep : rest ≠ [])
    (proper : (Entry.directory entries).WellNamed) (outer : ∀ part ∈ location, FileName part)
    (names : ∀ part ∈ folder ++ [name], FileName part)
    (spelled : base ++ within = directoryPath location)
    (placed : folder ++ [name] = location ++ rest)
    (present : (Entry.directory entries).descend? rest = some (.file content)) :
    filesAmong tree search location within ((Entry.directory entries).remove rest).entries =
      (filesAmong tree search location within entries).filter
        fun path => base ++ path != filePath folder name := by
  induction rest generalizing entries location within with
  | nil => exact absurd rfl deep
  | cons first more ih =>
      obtain ⟨_, child, shape, inside, below⟩ := descend_cons present
      cases shape
      apply files_among_beside proper outer names spelled placed inside
      by_cases deeper : more = []
      · -- The entry is the file itself, so it is gone whether or not it was searched for.
        subst deeper
        obtain ⟨rfl, same⟩ := List.append_inj' placed rfl
        rw [Entry.descend?] at below
        have gone : base ++ (within ++ first) = filePath folder name := by
          rw [← String.append_assoc, spelled, (List.cons.inj same).1, filePath]
        rw [remove_single, Option.some.inj below]
        simp only [filesAmong, Entry.entries]
        split <;> simp [gone, filesAmong]
      · obtain ⟨second, last, rfl⟩ := List.exists_cons_of_ne_nil deeper
        obtain ⟨inner, _, rfl, _⟩ := descend_cons below
        obtain ⟨others, removed⟩ := remove_directory inner (second :: last)
        obtain ⟨proper', named⟩ : (Entry.directory inner).WellNamed ∧ FileName first := by
          cases proper with
          | directory distinct named below =>
              exact ⟨below _ (mem_of_lookup inside), named _ (mem_of_lookup inside)⟩
        have found := @ih (within ++ first ++ "/") (location ++ [first]) inner deeper proper'
          (List.forall_mem_append.mpr ⟨outer, List.forall_mem_singleton.mpr named⟩)
          (by rw [directory_path_snoc, ← spelled]; simp only [String.append_assoc])
          (by rw [placed, List.append_assoc]; rfl) below
        rw [removed] at found
        rw [remove_deep List.lookup_cons_self deeper, removed]
        simp only [Entry.entries] at found
        simp only [putEntry, Entry.entries, filesAmong, List.append_nil, beq_self_eq_true, if_true,
          found]
        split <;> rfl

theorem remove_descend_below {entry : Entry} {rest : Location}
    (there : entry.descend? location = some (.directory entries)) (deep : rest ≠ []) :
    (entry.remove (location ++ rest)).descend? location =
      some ((Entry.directory entries).remove rest) := by
  induction location generalizing entry with
  | nil =>
      rw [Entry.descend?] at there ⊢
      rw [Option.some.inj there, List.nil_append]
  | cons first more ih =>
      obtain ⟨outer, child, rfl, inside, below⟩ := descend_cons there
      rw [List.cons_append, remove_deep inside (by simp [deep]), descend_first, lookup_put,
        if_pos rfl, Option.bind_some, ih below]

theorem remove_descend_apart {entry : Entry} {file : Location} {content : Text.Utf8.Bytes}
    (present : entry.descend? file = some (.file content)) (apart : ¬ location <+: file) :
    (entry.remove file).descend? location = entry.descend? location := by
  induction file generalizing entry location with
  | nil => rw [Entry.remove]
  | cons name rest ih =>
      obtain ⟨entries, child, rfl, inside, below⟩ := descend_cons present
      cases location with
      | nil => exact absurd List.nil_prefix apart
      | cons first more =>
          rw [descend_first]
          by_cases deep : rest = []
          · subst deep
            rw [Entry.descend?] at below
            rw [remove_single, descend_first, lookup_filter_name]
            by_cases same : first = name
            · subst same
              have on : more ≠ [] := by
                rintro rfl
                exact apart (List.prefix_refl _)
              rw [if_pos rfl, inside, Option.some.inj below, Option.bind_some, file_descend,
                if_neg on]
              rfl
            · rw [if_neg same]
          · rw [remove_deep inside deep, descend_first, lookup_put]
            by_cases same : first = name
            · subst same
              rw [if_pos rfl, inside, Option.bind_some, Option.bind_some]
              apply ih below
              intro within
              exact apart (List.cons_prefix_cons.mpr ⟨rfl, within⟩)
            · rw [if_neg same]

/-- Discovery finds the same files less the one, in the same order. -/
theorem discover_without {content : Text.Utf8.Bytes} (proper : tree.root.WellNamed)
    (present : tree.at? (folder ++ [name]) = some (.file content)) (root : String)
    (extensions patterns : List String) :
    discover (tree.without (folder ++ [name])) root extensions patterns =
      (discover tree root extensions patterns).filter fun path => path != filePath folder name := by
  have names := (well_named_descend proper present).1
  have alike := fun search => files_among_alike search (links_without present)
  have renamed : ∀ location relatives,
      (List.map (fun relative => directoryPath location ++ relative) relatives).filter
          (fun path => path != filePath folder name) =
        (relatives.filter fun relative =>
          directoryPath location ++ relative != filePath folder name).map
            fun relative => directoryPath location ++ relative :=
    fun location relatives => List.filter_map
  unfold discover
  dsimp only
  rw [resolve_without present]
  generalize tree.resolve linkLimit [] (stepsOf root) = location
  by_cases inside : location <+: folder ++ [name]
  · obtain ⟨rest, placed⟩ := inside
    cases rest with
    | nil =>
        rw [List.append_nil] at placed
        have gone : (tree.without (folder ++ [name])).at? location = none := by
          have shown := shows_without present location
          rwa [if_pos placed, FileTree.shows, Option.map_eq_none_iff] at shown
        rw [gone, placed, present]
        rfl
    | cons first more =>
        rw [← placed] at present
        obtain ⟨entries, _, there, _, _⟩ := at_through present
        have below : (Entry.directory entries).descend? (first :: more) = some (.file content) := by
          rwa [FileTree.at?, descend_append, ← FileTree.at?, there, Option.bind_some] at present
        obtain ⟨others, removed⟩ := remove_directory entries (first :: more)
        have left : (tree.without (folder ++ [name])).at? location = some (.directory others) := by
          rw [at_without, ← placed, ← removed]
          exact remove_descend_below there (List.cons_ne_nil first more)
        obtain ⟨outer, proper'⟩ := well_named_descend proper there
        have found := @files_among_removed tree (Search.of extensions patterns)
          (directoryPath location) "" name folder location entries content (first :: more)
          (List.cons_ne_nil first more) proper' outer names String.append_empty placed.symm below
        rw [removed] at found
        rw [left, there]
        dsimp only
        rw [alike, ← sort_filter, renamed, ← found]
        rfl
  · rw [at_without, remove_descend_apart present inside, ← FileTree.at?]
    cases there : tree.at? location with
    | none => rfl
    | some entry =>
        cases entry with
        | file | link => rfl
        | directory entries =>
            obtain ⟨outer, proper'⟩ := well_named_descend proper there
            dsimp only
            rw [alike, ← sort_filter, renamed, others_kept proper' outer names String.append_empty]
            intro first more shape
            exact absurd ⟨first :: more, shape.symm⟩ inside

end

end SelectorAudit.Storage
