import SelectorAudit.Proofs.Storage.FlatDirectory

/-!
# Paths of found files

Where every directory has distinct names that the system accepts, a path that discovery gives spells
the location of an entry that is no directory, and it spells no other location. Following it goes
straight to the directory that holds the entry, and from there to the entry itself or to where the
link in its place leads.
-/

namespace SelectorAudit.Storage

set_option autoImplicit false

/-- The names in a directory are distinct and accepted by the system, and so are those below. -/
inductive Entry.WellNamed : Entry → Prop where
  | file (content : Text.Utf8.Bytes) : Entry.WellNamed (.file content)
  | link (target : String) : Entry.WellNamed (.link target)
  | directory {entries : List (String × Entry)} (distinct : (entries.map Prod.fst).Nodup)
      (named : ∀ entry ∈ entries, FileName entry.1)
      (below : ∀ entry ∈ entries, entry.2.WellNamed) : Entry.WellNamed (.directory entries)

theorem mem_of_lookup {entries : List (String × Entry)} {name : String} {entry : Entry}
    (found : entries.lookup name = some entry) : (name, entry) ∈ entries := by
  obtain ⟨before, after, shape, _⟩ := List.lookup_eq_some_iff.mp found
  rw [shape]
  exact List.mem_append_right _ List.mem_cons_self

theorem lookup_first (name other : String) (entry : Entry) (rest : List (String × Entry)) :
    ((name, entry) :: rest).lookup other =
      if other = name then some entry else rest.lookup other := by
  rw [List.lookup_cons]
  by_cases same : other = name
  · simp [same]
  · rw [beq_eq_false_iff_ne.mpr same, if_neg same]

theorem descend_first (entries : List (String × Entry)) (name : String) (rest : Location) :
    (Entry.directory entries).descend? (name :: rest) =
      (entries.lookup name).bind fun child => child.descend? rest := by
  rw [Entry.descend?]
  cases entries.lookup name <;> rfl

theorem well_named_descend {entry found : Entry} {location : Location}
    (proper : entry.WellNamed) (leads : entry.descend? location = some found) :
    (∀ name ∈ location, FileName name) ∧ found.WellNamed := by
  induction location generalizing entry with
  | nil =>
      rw [Entry.descend?] at leads
      rw [← Option.some.inj leads]
      exact ⟨List.forall_mem_nil _, proper⟩
  | cons name rest ih =>
      obtain ⟨entries, child, rfl, inside, below⟩ := descend_cons leads
      cases proper with
      | directory distinct named proper =>
          have member := mem_of_lookup inside
          obtain ⟨names, end_⟩ := ih (proper _ member) below
          exact ⟨List.forall_mem_cons.mpr ⟨named _ member, names⟩, end_⟩

theorem file_path_inj {first second : Location} {name other : String}
    (names : ∀ part ∈ first ++ [name], FileName part)
    (others : ∀ part ∈ second ++ [other], FileName part)
    (same : filePath first name = filePath second other) : first ++ [name] = second ++ [other] := by
  rw [← file_path_steps names, same, file_path_steps others]

theorem directory_path_snoc (location : Location) (name : String) :
    directoryPath (location ++ [name]) = directoryPath location ++ name ++ "/" := by
  unfold directoryPath
  rw [List.map_append, String.join_append]
  simp [String.append_assoc]

/-! Discovery. -/

theorem sort_ordered (texts : List String) : (Text.sort texts).Pairwise (· ≤ ·) := by
  have sorted : (Text.sort texts).Pairwise fun a b => decide (a ≤ b) = true := by
    apply List.pairwise_mergeSort
    · intro a b c before behind
      exact decide_eq_true (String.le_trans (of_decide_eq_true before) (of_decide_eq_true behind))
    · intro a b
      rw [Bool.or_eq_true, decide_eq_true_iff, decide_eq_true_iff]
      exact String.le_total a b
  exact sorted.imp of_decide_eq_true

/-- A path, seen from a base, spells the location of an entry below a directory that is itself no
directory. -/
def Spells (base : String) (location : Location) (entries : List (String × Entry))
    (path : String) : Prop :=
  ∃ parents last entry, base ++ path = filePath (location ++ parents) last ∧
    (Entry.directory entries).descend? (parents ++ [last]) = some entry ∧
    entry.isDirectory = false

theorem descend_head {name : String} {rest : Location} {entries : List (String × Entry)}
    {found : Entry} (leads : (Entry.directory entries).descend? (name :: rest) = some found) :
    name ∈ entries.map Prod.fst := by
  obtain ⟨_, child, shape, inside, _⟩ := descend_cons leads
  cases shape
  exact List.mem_map.mpr ⟨_, mem_of_lookup inside, rfl⟩

theorem lookup_behind {first : String × Entry} {rest : List (String × Entry)} {name : String}
    (distinct : ((first :: rest).map Prod.fst).Nodup) (member : name ∈ rest.map Prod.fst) :
    (first :: rest).lookup name = rest.lookup name := by
  rw [List.map_cons, List.nodup_cons] at distinct
  have other : (name == first.1) = false := by
    rw [beq_eq_false_iff_ne]
    rintro rfl
    exact distinct.1 member
  rw [List.lookup_cons, other]

theorem spells_behind {base : String} {location : Location} {first : String × Entry}
    {rest : List (String × Entry)} {path : String}
    (distinct : ((first :: rest).map Prod.fst).Nodup) (spelled : Spells base location rest path) :
    Spells base location (first :: rest) path := by
  obtain ⟨parents, last, entry, shape, leads, plain⟩ := spelled
  refine ⟨parents, last, entry, shape, ?_, plain⟩
  obtain ⟨name, more, parts⟩ : ∃ name more, parents ++ [last] = name :: more := by
    cases parents <;> exact ⟨_, _, rfl⟩
  rw [parts] at leads ⊢
  rw [Entry.descend?, lookup_behind distinct (descend_head leads)]
  rw [Entry.descend?] at leads
  exact leads

theorem spells_below {base : String} {location : Location} {name path : String}
    {inner rest : List (String × Entry)} (spelled : Spells base (location ++ [name]) inner path) :
    Spells base location ((name, .directory inner) :: rest) path := by
  obtain ⟨parents, last, entry, shape, leads, plain⟩ := spelled
  refine ⟨name :: parents, last, entry, ?_, ?_, plain⟩
  · rw [shape, List.append_assoc, List.singleton_append]
  · rw [List.cons_append, Entry.descend?, List.lookup_cons_self]
    exact leads

theorem spells_here {base within : String} {location : Location} {name : String} {entry : Entry}
    (rest : List (String × Entry)) (spelled : base ++ within = directoryPath location)
    (plain : entry.isDirectory = false) :
    Spells base location ((name, entry) :: rest) (within ++ name) := by
  refine ⟨[], name, entry, ?_, ?_, plain⟩
  · rw [← String.append_assoc, spelled, List.append_nil, filePath]
  · rw [List.nil_append, Entry.descend?, List.lookup_cons_self]
    exact Entry.descend?.eq_1 entry

theorem files_among_spell (tree : FileTree) (search : Search) (base : String) :
    ∀ (entries : List (String × Entry)) (location : Location) (within : String),
      (Entry.directory entries).WellNamed → base ++ within = directoryPath location →
      ∀ path ∈ filesAmong tree search location within entries, Spells base location entries path
  | [], location, within, proper, spelled => by
      intro path member
      unfold filesAmong at member
      cases member
  | (name, entry) :: rest, location, within, .directory distinct named below, spelled => by
      intro path member
      unfold filesAmong at member
      rcases List.mem_append.mp member with first | behind
      · have wanted : entry.isDirectory = false →
            path ∈ (if search.wants name (within ++ name) then [within ++ name] else []) →
            Spells base location ((name, entry) :: rest) path := by
          intro plain listed
          split at listed
          · rw [List.mem_singleton.mp listed]
            exact spells_here rest spelled plain
          · cases listed
        cases entry with
        | file content => exact wanted rfl first
        | link target =>
            dsimp only at first
            split at first
            · cases first
            · exact wanted rfl first
        | directory inner =>
            dsimp only at first
            split at first
            · cases first
            · have deeper :
                  base ++ (within ++ name ++ "/") = directoryPath (location ++ [name]) := by
                rw [directory_path_snoc, ← spelled]
                simp only [String.append_assoc]
              exact spells_below (files_among_spell tree search base inner _ _
                (below _ List.mem_cons_self) deeper path first)
      · obtain ⟨_, namedRest⟩ := List.forall_mem_cons.mp named
        obtain ⟨_, belowRest⟩ := List.forall_mem_cons.mp below
        exact spells_behind distinct (files_among_spell tree search base rest location within
          (.directory (List.nodup_cons.mp distinct).2 namedRest belowRest) spelled path behind)

theorem discover_spells {tree : FileTree} (proper : tree.root.WellNamed) {root path : String}
    {extensions patterns : List String} (member : path ∈ discover tree root extensions patterns) :
    ∃ parents last entry, path = filePath parents last ∧
      tree.at? (parents ++ [last]) = some entry ∧ entry.isDirectory = false := by
  unfold discover at member
  dsimp only at member
  generalize tree.resolve linkLimit [] (stepsOf root) = location at member
  split at member
  · rename_i entries present
    obtain ⟨relative, among, shape⟩ := List.mem_map.mp (List.mem_mergeSort.mp member)
    have below := (well_named_descend proper present).2
    obtain ⟨parents, last, entry, spelled, leads, plain⟩ := files_among_spell tree _
      (directoryPath location) entries location "" below (String.append_empty) relative among
    refine ⟨location ++ parents, last, entry, shape.symm.trans spelled, ?_, plain⟩
    rw [FileTree.at?, List.append_assoc, descend_append]
    rw [FileTree.at?] at present
    rw [present]
    exact leads
  · cases member

/-! Following such a path. -/

/-- Where the path of an entry that is no directory leads, if anywhere: to the entry itself, or to
where the link in its place leads. -/
theorem locate_file_path {tree : FileTree} {parents found : Location} {last : String}
    {entry : Entry} (present : tree.at? (parents ++ [last]) = some entry)
    (names : ∀ part ∈ parents ++ [last], FileName part)
    (located : tree.locate (filePath parents last) = .ok found) :
    found = parents ++ [last] ∨
      ∃ target, entry = .link target ∧ tree.follow linkLimit parents [last] = .ok found := by
  have followed : tree.follow linkLimit [] (parents ++ [last]) = .ok found := by
    unfold FileTree.locate at located
    split at located
    · cases located
    · split at located
      · cases located
      · rw [file_path_steps names] at located
        exact located
  obtain ⟨inParents, inLast⟩ := List.forall_mem_append.mp names
  obtain ⟨entries, child, there, inside, below⟩ := at_through present
  rw [Entry.descend?] at below
  rw [@follow_names tree linkLimit [] parents [last] _ there (by rintro _ ⟨⟩) inParents,
    List.nil_append] at followed
  cases entry with
  | link target => exact Or.inr ⟨target, rfl, followed⟩
  | file content | directory inner =>
      rw [follow_into there inside (by rw [Option.some.inj below]; rintro _ ⟨⟩)
        (inLast last List.mem_cons_self), FileTree.follow] at followed
      exact Or.inl (Except.ok.inj followed).symm

end SelectorAudit.Storage
