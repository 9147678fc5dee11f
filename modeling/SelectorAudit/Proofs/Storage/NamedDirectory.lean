import SelectorAudit.Proofs.Storage.WantedFiles

/-!
# Directories that a name excludes

Two stars, a name between slashes and two stars again stand for the texts in which the name occurs
between slashes. A relative path with a dot and a slash in front has between slashes just the
directories that lead to the file, and so the pattern excludes what lies in a directory of that
name, at whatever depth, and nothing else.
-/

namespace SelectorAudit.Storage

set_option autoImplicit false

namespace Glob

/-- Whether a pattern takes every character of a text literally. -/
def Plain (text : List Char) : Prop :=
  ∀ c ∈ text, c ≠ '*' ∧ c ≠ '?' ∧ c ≠ '['

theorem parse_plain {word : List Char} (plain : Plain word) (behind : List Char) :
    parse (word ++ behind) = word.map Item.literal ++ parse behind := by
  induction word with
  | nil => rfl
  | cons c rest ih =>
      have first := plain c List.mem_cons_self
      have later : Plain rest := fun other member => plain other (List.mem_cons_of_mem c member)
      rw [List.cons_append, parse, ih later]
      · rfl
      · exact first.1
      · exact first.2.1
      · exact first.2.2

theorem stands_append (before behind : Pattern) (text : List Char) :
    Stands (before ++ behind) text ↔
      ∃ first second, text = first ++ second ∧ Stands before first ∧ Stands behind second := by
  induction before generalizing text with
  | nil => simp [Stands]
  | cons item rest ih =>
      simp only [List.cons_append, Stands, ih]
      constructor
      · rintro ⟨piece, _, rfl, stands, first, second, rfl, former, latter⟩
        exact ⟨piece ++ first, second, (List.append_assoc ..).symm,
          ⟨piece, first, rfl, stands, former⟩, latter⟩
      · rintro ⟨_, second, rfl, ⟨piece, first, rfl, stands, former⟩, latter⟩
        exact ⟨piece, first ++ second, List.append_assoc .., stands, first, second, rfl, former,
          latter⟩

theorem stands_literals (word text : List Char) :
    Stands (word.map Item.literal) text ↔ text = word := by
  induction word generalizing text with
  | nil => rfl
  | cons c rest ih =>
      simp only [List.map_cons, Stands, ih, Item.Stands, Item.accepts, beq_iff_eq]
      constructor
      · rintro ⟨_, _, rfl, ⟨_, rfl, rfl⟩, rfl⟩
        rfl
      · intro same
        exact ⟨[c], rest, same, ⟨c, rfl, rfl⟩, rfl⟩

theorem stands_two_stars (text : List Char) : Stands [.star, .star] text :=
  ⟨text, [], (List.append_nil text).symm, trivial, [], [], rfl, trivial, rfl⟩

theorem stands_around_word {word : List Char} (plain : Plain word) (text : List Char) :
    Stands (parse ('*' :: '*' :: (word ++ ['*', '*']))) text ↔ word <:+: text := by
  have stars : parse ['*', '*'] = [.star, .star] := by simp [parse]
  have shape : parse ('*' :: '*' :: (word ++ ['*', '*'])) =
      [.star, .star] ++ (word.map Item.literal ++ [.star, .star]) := by
    rw [parse, parse, parse_plain plain, stars]
    rfl
  simp only [shape, stands_append, stands_two_stars, stands_literals, true_and, and_true]
  constructor
  · rintro ⟨before, _, rfl, _, behind, rfl, rfl⟩
    exact ⟨before, behind, List.append_assoc ..⟩
  · rintro ⟨before, behind, rfl⟩
    exact ⟨before, word ++ behind, List.append_assoc .., word, behind, rfl, rfl⟩

end Glob

/-! Names between slashes. -/

/-- A text between slashes. -/
def enclosed (word : List Char) : List Char :=
  '/' :: (word ++ ['/'])

section

variable {word first rest : List Char}

/-- Nothing between slashes starts within a text without slashes. -/
theorem enclosed_infix_behind (whole : '/' ∉ first) :
    enclosed word <:+: first ++ rest ↔ enclosed word <:+: rest := by
  induction first with
  | nil => rfl
  | cons c later ih =>
      have other : '/' ≠ c := fun same => whole (same ▸ List.mem_cons_self)
      have apart : ¬ enclosed word <+: c :: (later ++ rest) := by
        intro start
        exact other (List.cons_prefix_cons.mp start).1
      rw [List.cons_append, List.infix_cons_iff, or_iff_right apart]
      exact ih fun member => whole (List.mem_cons_of_mem c member)

theorem not_enclosed_infix (whole : '/' ∉ first) : ¬ enclosed word <:+: first := by
  intro inside
  exact whole (inside.subset List.mem_cons_self)

theorem before_slash_prefix_iff (wholeWord : '/' ∉ word) (whole : '/' ∉ first) :
    word ++ ['/'] <+: first ++ '/' :: rest ↔ word = first := by
  induction word generalizing first with
  | nil =>
      cases first with
      | nil => simp
      | cons c later => simp_all [eq_comm]
  | cons c more ih =>
      cases first with
      | nil => simp_all [eq_comm]
      | cons other later =>
          have moreWhole : '/' ∉ more := fun member => wholeWord (List.mem_cons_of_mem c member)
          have laterWhole : '/' ∉ later := fun member => whole (List.mem_cons_of_mem other member)
          rw [List.cons_append, List.cons_append, List.cons_prefix_cons, ih moreWhole laterWhole,
            List.cons.injEq]

/-- What stands before the next slash is the word, or else the word stands further on. -/
theorem enclosed_infix_segment (wholeWord : '/' ∉ word) (whole : '/' ∉ first) :
    enclosed word <:+: '/' :: (first ++ '/' :: rest) ↔
      word = first ∨ enclosed word <:+: '/' :: rest := by
  rw [List.infix_cons_iff, enclosed_infix_behind whole, enclosed, List.cons_prefix_cons,
    and_iff_right rfl, before_slash_prefix_iff wholeWord whole]

end

/-- The names between slashes in a relative path with a slash in front are those of its
directories. -/
theorem enclosed_infix_path {word last : List Char} (wholeWord : '/' ∉ word)
    (wholeLast : '/' ∉ last) {folders : Location}
    (whole : ∀ folder ∈ folders, '/' ∉ folder.toList) :
    enclosed word <:+: '/' :: ((foldersPath folders).toList ++ last) ↔
      word ∈ folders.map String.toList := by
  induction folders with
  | nil =>
      have short : ¬ enclosed word <:+: '/' :: last := by
        rw [List.infix_cons_iff, not_or, enclosed, List.cons_prefix_cons, and_iff_right rfl]
        constructor
        · intro start
          exact wholeLast (start.subset (List.mem_append_right _ List.mem_cons_self))
        · exact not_enclosed_infix wholeLast
      simpa using short
  | cons folder folders ih =>
      have outer := whole folder List.mem_cons_self
      have inner := ih fun other member => whole other (List.mem_cons_of_mem folder member)
      have shape : (foldersPath (folder :: folders)).toList ++ last =
          folder.toList ++ '/' :: ((foldersPath folders).toList ++ last) := by
        simp
      rw [shape, enclosed_infix_segment wholeWord outer, inner, List.map_cons, List.mem_cons]

/-! The theorem. -/

/-- A name that a pattern can hold between slashes and that it takes literally. -/
structure LiteralName (name : String) : Prop where
  whole : '/' ∉ name.toList
  plain : Glob.Plain name.toList

/-- The pattern for what lies in directories of a name. -/
def insidePattern (name : String) : String :=
  "**/" ++ name ++ "/**"

theorem excluded_inside_iff {name last : String} (named : LiteralName name)
    (wholeLast : '/' ∉ last.toList) {folders : Location}
    (whole : ∀ folder ∈ folders, '/' ∉ folder.toList) :
    Excluded [insidePattern name] (foldersPath folders ++ last) ↔ name ∈ folders := by
  have plain : Glob.Plain (enclosed name.toList) := by
    intro c member
    rcases List.mem_cons.mp member with rfl | member
    · decide
    · rcases List.mem_append.mp member with inside | last
      · exact named.plain c inside
      · rw [List.mem_singleton.mp last]
        decide
  have spelled : (insidePattern name).toList =
      '*' :: '*' :: (enclosed name.toList ++ ['*', '*']) := by
    simp [insidePattern, enclosed]
  have dotted : ("./" ++ (foldersPath folders ++ last)).toList =
      ['.'] ++ '/' :: ((foldersPath folders).toList ++ last.toList) := by
    simp
  have path := enclosed_infix_path named.whole wholeLast whole
  unfold Excluded
  simp only [List.mem_singleton, exists_eq_left, spelled, Glob.stands_around_word plain, dotted]
  rw [enclosed_infix_behind (by decide), path, List.mem_map]
  constructor
  · rintro (⟨folder, member, same⟩ | inside)
    · exact String.toList_inj.mp same ▸ member
    · rw [String.toList_append] at inside
      have further := path.mp (inside.trans (List.suffix_cons '/' _).isInfix)
      obtain ⟨folder, member, same⟩ := List.mem_map.mp further
      exact String.toList_inj.mp same ▸ member
  · intro member
    exact .inl ⟨name, member, rfl⟩

theorem held_file_named {tree : FileTree} (proper : tree.root.WellNamed) {location : Location}
    {last : String} (present : tree.holdsFile location last = true) :
    ∀ part ∈ location ++ [last], FileName part := by
  rw [FileTree.holdsFile, Option.any_eq_true] at present
  obtain ⟨entry, there, _⟩ := present
  exact (well_named_descend proper there).1

/-- With the pattern for a name, a file is wanted if it is wanted without it and none of its
directories has the name. -/
theorem wanted_inside_iff {tree : FileTree} (proper : tree.root.WellNamed) {name : String}
    (named : LiteralName name) (location : Location) (extensions : List String) (folders : Location)
    (last : String) :
    Wanted tree location extensions [insidePattern name] folders last ↔
      Wanted tree location extensions [] folders last ∧ name ∉ folders := by
  have excluded (present : tree.holdsFile (location ++ folders) last = true) :
      Excluded [insidePattern name] (foldersPath folders ++ last) ↔ name ∈ folders := by
    have names := held_file_named proper present
    apply excluded_inside_iff named
    · exact (names last (List.mem_append_right _ List.mem_cons_self)).whole
    · intro folder member
      apply FileName.whole
      exact names folder (List.mem_append_left _ (List.mem_append_right _ member))
  have unexcluded (relative : String) : ¬ Excluded [] relative := by
    simp [Excluded]
  constructor
  · intro wanted
    constructor
    · exact ⟨wanted.present, wanted.extension, unexcluded _⟩
    · exact fun member => wanted.unmatched ((excluded wanted.present).mpr member)
  · rintro ⟨wanted, absent⟩
    exact ⟨wanted.present, wanted.extension, fun matched =>
      absent ((excluded wanted.present).mp matched)⟩

/-- Where everything in a directory is to be left out, discovery gives exactly the wanted files that
have no directory of that name above them below the root. Longer names that hold the name, a file of
that name and the path of the root make no difference. -/
theorem discover_skips_directories_named {tree : FileTree} (proper : tree.root.WellNamed)
    (root : String) (extensions : List String) {name : String} (named : LiteralName name) :
    let location := tree.resolve linkLimit [] (stepsOf root)
    (discover tree root extensions [insidePattern name]).Pairwise (· < ·) ∧
      ∀ path, path ∈ discover tree root extensions [insidePattern name] ↔
        ∃ folders last, path = filePath (location ++ folders) last ∧
          Wanted tree location extensions [] folders last ∧ name ∉ folders := by
  intro location
  constructor
  · exact discover_ascending proper root extensions [insidePattern name]
  intro path
  have starred : ∀ pattern ∈ [insidePattern name], pattern.toList.getLast? = some '*' := by
    intro pattern member
    rw [List.mem_singleton.mp member, List.getLast?_eq_some_iff]
    exact ⟨['*', '*', '/'] ++ name.toList ++ ['/', '*'], by simp [insidePattern]⟩
  rw [mem_discover_iff proper]
  constructor
  · rintro ⟨folders, last, spelled, wanted, _⟩
    exact ⟨folders, last, spelled, (wanted_inside_iff proper named _ _ _ _).mp wanted⟩
  · rintro ⟨folders, last, spelled, wanted⟩
    have matched := (wanted_inside_iff proper named _ _ _ _).mpr wanted
    exact ⟨folders, last, spelled, matched, reached_of_unmatched starred matched.unmatched⟩

/-- Entries of a root directory that is itself called `dist`: a directory of that name, and another
with a longer name and a file called `dist` in it. -/
def distEntries : List (String × Entry) :=
  [("dist", .directory [("old.css", .file [])]), ("redist", .directory [("dist", .file [])])]

theorem dist_entries_well_named :
    (FileTree.root ⟨[("dist", .directory distEntries)]⟩).WellNamed := by
  have inner (name : String) (named : FileName name) :
      (Entry.directory [(name, .file [])]).WellNamed :=
    .directory (List.nodup_singleton name) (List.forall_mem_singleton.mpr named)
      (List.forall_mem_singleton.mpr (.file []))
  have entries : (Entry.directory distEntries).WellNamed :=
    .directory (by decide) (by decide) (List.forall_mem_cons.mpr
      ⟨inner "old.css" (by decide), List.forall_mem_singleton.mpr (inner "dist" (by decide))⟩)
  exact .directory (by decide) (by decide) (List.forall_mem_singleton.mpr entries)

/-- The file called `dist` is found, the one in the directory `dist` below the root is not. -/
theorem discover_skips_directories_named_dist :
    (FileTree.root ⟨[("dist", .directory distEntries)]⟩).WellNamed ∧ LiteralName "dist" ∧
      filePath ["dist", "redist"] "dist" ∈ discover ⟨[("dist", .directory distEntries)]⟩
        (filePath [] "dist") [".css", ""] [insidePattern "dist"] ∧
      filePath ["dist", "dist"] "old.css" ∉ discover ⟨[("dist", .directory distEntries)]⟩
        (filePath [] "dist") [".css", ""] [insidePattern "dist"] := by
  have named : LiteralName "dist" := ⟨by decide, by simp [Glob.Plain]⟩
  have told := (discover_skips_directories_named dist_entries_well_named (filePath [] "dist")
    [".css", ""] named).2
  rw [resolve_folder distEntries (by decide)] at told
  refine ⟨dist_entries_well_named, named, ?_, ?_⟩
  · apply (told _).mpr
    refine ⟨["redist"], "dist", rfl, ⟨by decide +kernel, ⟨"", by decide, by decide +kernel⟩, ?_⟩,
      by decide⟩
    simp [Excluded]
  · intro found
    obtain ⟨folders, last, spelled, wanted, absent⟩ := (told _).mp found
    have parts := file_path_inj (by decide) (held_file_named dist_entries_well_named wanted.present)
      spelled
    cases folders with
    | nil => cases parts
    | cons folder folders =>
        obtain ⟨rfl, _⟩ := List.cons.inj (List.cons.inj parts).2
        exact absent List.mem_cons_self

end SelectorAudit.Storage
