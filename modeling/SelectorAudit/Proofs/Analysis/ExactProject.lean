import SelectorAudit.Analysis.Session
import SelectorAudit.Proofs.Analysis.RunReport
import SelectorAudit.Proofs.Markup.ElementModule
import SelectorAudit.Proofs.Storage.FlatDirectory
import SelectorAudit.Proofs.Storage.WrittenText
import SelectorAudit.Proofs.Stylesheet.NameSheet

/-!
# A project told from end to end

A project of two files: a style sheet that declares one class or id in each line, and a module with
one element that carries a list of names. Whatever the names are and however many there are, a run
with the default options reads both files without complaint, and what it finds unused is what was
declared under a name that the element does not carry, line by line.
-/

namespace SelectorAudit.Analysis

set_option autoImplicit false

open Report Settings Storage Stylesheet

/-! Parts of a run that go well. -/

structure PartReport.Finds {State Found : Type} (report : PartReport State Found) (found : Found)
    (state : State) : Prop where
  outcome : report.outcome = .ok found
  errors : report.errors = []
  state : report.state = state

section

variable {State Item Found Later : Type} {state middle last : State}

theorem noted_finds (lines : Journal) (state : State) :
    (notedReport lines state).Finds () state := ⟨rfl, rfl, rfl⟩

theorem finds_and_then {first : PartReport State Found} {found : Found}
    {later : Found → State → PartReport State Later} {result : Later}
    (start : first.Finds found middle) (next : (later found middle).Finds result last) :
    (first.andThen later).Finds result last := by
  unfold PartReport.andThen
  rw [start.outcome]
  dsimp only
  rw [start.state, start.errors]
  exact ⟨next.outcome, next.errors, next.state⟩

theorem finds_map {report : PartReport State Found} {found : Found} (change : Found → Later)
    (given : report.Finds found state) : (report.map change).Finds (change found) state :=
  ⟨congrArg (Except.map change) given.outcome, given.errors, given.state⟩

theorem files_report_single {read : Reader State} {treatment : Treatment State Item}
    {path : String} {items : List Item}
    (given : (fileReport read treatment state path).Finds items last) :
    (filesReport read treatment state [path]).Finds items last := by
  have alone : ((filesReport read treatment last []).map fun more => items ++ more).Finds
      items last := ⟨congrArg Except.ok (List.append_nil items), rfl, rfl⟩
  exact finds_and_then given alone

end

/-! The two files. -/

/-- The module whose element carries some names. -/
def nameModule (names : List PlainName) : List Char :=
  Markup.Grammar.elementModule (Text.joined (names.map PlainName.text))

theorem mem_joined_names {names : List PlainName} {c : Char}
    (member : c ∈ Text.joined (names.map PlainName.text)) : c = ' ' ∨ Text.isNameChar c = true := by
  rcases Text.mem_intercalate member with blank | ⟨part, among, inside⟩
  · exact .inl blank
  · obtain ⟨name, _, rfl⟩ := List.mem_map.mp among
    exact .inr (name.plain c inside)

theorem name_char_kept {c : Char} (plain : Text.isNameChar c = true) : isKept c = true := by
  obtain ⟨_, most⟩ := name_char_visible plain
  have other : c ≠ '\r' := by
    rintro rfl
    exact absurd plain (by decide)
  rw [isKept, Bool.and_eq_true, decide_eq_true_iff, bne_iff_ne]
  exact ⟨Nat.lt_of_le_of_lt most (by decide), other⟩

theorem name_sheet_kept (declarations : List Declaration) :
    ∀ c ∈ nameSheet declarations, isKept c = true := by
  intro c member
  obtain ⟨text, among, inside⟩ := List.mem_flatMap.mp member
  obtain ⟨declaration, _, rfl⟩ := List.mem_map.mp among
  rcases List.mem_append.mp inside with written | block
  · rcases Declaration.mem_text written with rfl | rfl | plain
    · rfl
    · rfl
    · exact name_char_kept plain
  · exact List.all_eq_true.mp (by decide) c block

theorem name_module_kept (names : List PlainName) :
    ∀ c ∈ nameModule names, isKept c = true := by
  intro c member
  rcases List.mem_append.mp member with before | rest
  · exact List.all_eq_true.mp (by decide +kernel) c before
  · rcases List.mem_append.mp rest with inside | behind
    · rcases mem_joined_names inside with rfl | plain
      · rfl
      · exact name_char_kept plain
    · exact List.all_eq_true.mp (by decide +kernel) c behind

/-- The parser makes an element that carries the names of the module. -/
abbrev ReadsNames (parse : Markup.ModuleParser) (names : List PlainName) : Prop :=
  Markup.ReadsElement parse (Text.joined (names.map PlainName.text))

theorem parse_module_reads_names (names : List PlainName) :
    ReadsNames Markup.parseModule names := by
  have plain : Markup.Grammar.PlainText (Text.joined (names.map PlainName.text)) := by
    intro c member
    rcases mem_joined_names member with rfl | plain
    · decide
    · constructor <;> rintro rfl <;> exact absurd plain (by decide)
  have writable : Markup.isWritable (Text.joined (names.map PlainName.text)) = true := by
    apply List.all_eq_true.mpr
    intro c member
    rcases mem_joined_names member with rfl | plain
    · rfl
    · have visible := (name_char_visible plain).1
      rw [bne_iff_ne]
      omega
  exact Markup.parse_module_reads_element plain writable

theorem name_module_usage {parse : Markup.ModuleParser} {names : List PlainName}
    (reads : ReadsNames parse names) (file : String) :
    (Markup.elementUsage parse (nameModule names) file).used =
        names.map (fun name => UsedName.mk name.word file) ∧
      (Markup.elementUsage parse (nameModule names) file).errors = [] := by
  have tokens : Text.staticTokens (Text.joined (names.map PlainName.text)) =
      names.map PlainName.word := by
    have found : Text.words (Text.joined (names.map PlainName.text)) = names.map PlainName.text :=
      Text.words_joined (List.forall_mem_map.mpr fun name _ => name.solid)
    have identified : (names.map PlainName.text).filter Text.isIdentifier =
        names.map PlainName.text :=
      List.filter_eq_self.mpr (List.forall_mem_map.mpr fun name _ => name.identified)
    unfold Text.staticTokens
    rw [found, identified, List.map_map]
    rfl
  obtain ⟨used, errors⟩ := Markup.element_module_usage reads file
  rw [tokens, List.map_map] at used
  exact ⟨used, errors⟩

/-- The files of the project. -/
def exactFiles (declared : List Declaration) (used : List PlainName) :
    List (String × Text.Utf8.Bytes) :=
  [("a.css", Text.Utf8.encode (String.ofList (nameSheet declared))),
    ("A.jsx", Text.Utf8.encode (String.ofList (nameModule used)))]

theorem exact_files_distinct (declared : List Declaration) (used : List PlainName) :
    ((exactFiles declared used).map Prod.fst).Nodup := by
  show ["a.css", "A.jsx"].Nodup
  decide

/-! The run. -/

section

variable {tree : FileTree} {root : String} {location : Location} {declared : List Declaration}
  {used : List PlainName} {parse : Markup.ModuleParser}

theorem sheet_report (project : HoldsFiles tree root location (exactFiles declared used))
    (fits : (Text.Utf8.encode (String.ofList (nameSheet declared))).length ≤
      Config.defaults.maxStylesheetBytes) :
    (fileReport (treeHost parse).read (stylesheetTreatment .defaults) tree
      (filePath location "a.css")).Finds
        (selectorsByLine (filePath location "a.css") declared 1) tree := by
  have text := read_held project (exact_files_distinct declared used) List.mem_cons_self
    (Int.ofNat_le.mpr fits)
  rw [text_of_encode (name_sheet_kept declared)] at text
  unfold fileReport
  dsimp only [treeHost, stylesheetTreatment]
  rw [text]
  dsimp only
  cases declared with
  | nil => exact ⟨rfl, rfl, rfl⟩
  | cons first later =>
      have present : first :: later ≠ [] := List.cons_ne_nil first later
      have solid : Text.isAllBlank (nameSheet (first :: later)) = false :=
        (rendered_sheet_accepted _ _).1
      rw [solid]
      unfold stylesheetExtractor
      rw [extract_name_sheet (filePath location "a.css") present]
      exact ⟨rfl, rfl, rfl⟩

theorem module_report (project : HoldsFiles tree root location (exactFiles declared used))
    (fits : (Text.Utf8.encode (String.ofList (nameModule used))).length ≤
      Config.defaults.maxComponentBytes) (reads : ReadsNames parse used) :
    (fileReport (treeHost parse).read (elementTreatment parse .defaults) tree
      (filePath location "A.jsx")).Finds
      (used.map fun name => UsedName.mk name.word (filePath location "A.jsx")) tree := by
  have text := read_held project (exact_files_distinct declared used)
    (List.mem_cons_of_mem _ List.mem_cons_self) (Int.ofNat_le.mpr fits)
  rw [text_of_encode (name_module_kept used)] at text
  have solid : Text.isAllBlank (nameModule used) = false := rfl
  obtain ⟨names, errors⟩ := name_module_usage reads (filePath location "A.jsx")
  unfold fileReport
  dsimp only [treeHost, elementTreatment]
  rw [text]
  dsimp only
  rw [solid]
  dsimp only [elementExtractor]
  rw [names, errors]
  exact ⟨rfl, rfl, rfl⟩

theorem exact_discovery (project : HoldsFiles tree root location (exactFiles declared used)) :
    discover tree root Config.defaults.includeFileTypes Config.defaults.excludePatterns =
        [filePath location "a.css"] ∧
      discover tree root Config.defaults.componentFileTypes Config.defaults.excludePatterns =
        [filePath location "A.jsx"] := by
  constructor
  · apply discover_single project
    show ["a.css", "A.jsx"].filter _ = _
    decide +kernel
  · apply discover_single project
    show ["a.css", "A.jsx"].filter _ = _
    decide +kernel

theorem exact_workload (location : Location) :
    workload .defaults [filePath location "a.css"] [filePath location "A.jsx"] =
      ⟨[filePath location "a.css"], [filePath location "A.jsx"], [], []⟩ := by
  have kind : Config.defaults.sourceKind (filePath location "A.jsx") = some .jsx := by
    have same : lowerExtension (filePath location "A.jsx") = lowerExtension "A.jsx" := by
      unfold lowerExtension
      rw [file_path_extension (by decide)]
    unfold Config.sourceKind
    rw [same]
    decide +kernel
  simp [workload, kind]

theorem exact_report (project : HoldsFiles tree root location (exactFiles declared used))
    (sheetFits : (Text.Utf8.encode (String.ofList (nameSheet declared))).length ≤
      Config.defaults.maxStylesheetBytes)
    (moduleFits : (Text.Utf8.encode (String.ofList (nameModule used))).length ≤
      Config.defaults.maxComponentBytes) (reads : ReadsNames parse used) :
    (analysisReport parse (treeHost parse).read .defaults
      ⟨[filePath location "a.css"], [filePath location "A.jsx"], [], []⟩ tree).Finds
        (selectorsByLine (filePath location "a.css") declared 1,
          used.map fun name => UsedName.mk name.word (filePath location "A.jsx")) tree := by
  apply finds_and_then (noted_finds _ tree)
  apply finds_and_then (files_report_single (sheet_report project sheetFits))
  apply finds_and_then (noted_finds _ tree)
  apply finds_and_then (files_report_single (module_report project moduleFits reads))
  have undecorated : (filesReport (treeHost parse).read
      (decoratorTreatment parse (treeHost parse).read .defaults) tree []).Finds [] tree := ⟨rfl, rfl, rfl⟩
  apply finds_and_then undecorated
  rw [List.append_nil]
  exact finds_map _ (noted_finds _ tree)

/-- Names that the element carries are in use. -/
theorem find_unused_by_line (file other : String) (declared : List Declaration)
    (used : List PlainName) (line : Nat) :
    findUnused (selectorsByLine file declared line)
        (used.map fun name => UsedName.mk name.word other) =
      ((declared.zipIdx line).filter fun entry =>
        entry.1.name.word ∉ used.map PlainName.word).map fun entry =>
          entry.1.selector file entry.2 := by
  unfold findUnused selectorsByLine
  rw [List.filter_map]
  congr 1
  apply List.filter_congr
  intro entry _
  rw [Bool.eq_iff_iff]
  simp [Declaration.selector]

/-- A run tells exactly what is unused. Whatever is declared and whatever is used, under the default
options, where both files are within their limits and the parser makes of the module the element that
it spells, the run completes with an empty log, and it reports the declarations whose names are not
used, in order, each at the start of its own line. -/
theorem run_reports_unused_exactly (declared : List Declaration) (used : List PlainName)
    (project : HoldsFiles tree root location (exactFiles declared used))
    (sheetFits : (Text.Utf8.encode (String.ofList (nameSheet declared))).length ≤
      Config.defaults.maxStylesheetBytes)
    (moduleFits : (Text.Utf8.encode (String.ofList (nameModule used))).length ≤
      Config.defaults.maxComponentBytes) (reads : ReadsNames parse used) (generation : Nat) :
    (run (treeHost parse) .defaults root generation tree).result.status = .completed ∧
    (run (treeHost parse) .defaults root generation tree).result.errors = .fresh ∧
    (run (treeHost parse) .defaults root generation tree).result.unused =
      ((declared.zipIdx 1).filter fun entry =>
        entry.1.name.word ∉ used.map PlainName.word).map fun entry =>
          entry.1.selector (filePath location "a.css") entry.2 := by
  obtain ⟨sheets, modules⟩ := exact_discovery project
  have report := exact_report project sheetFits moduleFits reads
  have enough : ¬ [filePath location "a.css"].length < Config.defaults.minFilesForAnalysis :=
    Nat.lt_irrefl 1
  have ends : ending (treeHost parse) .defaults root tree = .analyzed
      (analysisReport parse (treeHost parse).read .defaults
        ⟨[filePath location "a.css"], [filePath location "A.jsx"], [], []⟩ tree) := by
    unfold ending
    rw [validate_defaults]
    dsimp only [treeHost]
    rw [sheets, modules, if_neg enough, exact_workload]
  rw [run_eq_run_logging, runLogging, ends]
  dsimp only [Ending.outcome]
  unfold PartReport.conclusion
  rw [report.outcome]
  refine ⟨rfl, ?_, find_unused_by_line _ _ declared used 1⟩
  show ErrorLog.addAll .fresh (analysisReport _ _ _ _ _).errors = _
  rw [report.errors]
  rfl

end

def letterName : PlainName := ⟨['a'], List.cons_ne_nil _ _, List.all_eq_true.mp rfl⟩
def digitName : PlainName := ⟨['0', '-'], List.cons_ne_nil _ _, List.all_eq_true.mp rfl⟩
def markName : PlainName := ⟨['_'], List.cons_ne_nil _ _, List.all_eq_true.mp rfl⟩

/-- A name that starts with a digit, a name declared twice, and a class and an id of one name. -/
def sampleDeclared : List Declaration :=
  [⟨.classSelector, letterName⟩, ⟨.idSelector, digitName⟩, ⟨.classSelector, markName⟩,
    ⟨.classSelector, markName⟩, ⟨.idSelector, letterName⟩]

def sampleUsed : List PlainName := [letterName]

def sampleTree : FileTree :=
  ⟨[("p", .directory ((exactFiles sampleDeclared sampleUsed).reverse.map fun file =>
    (file.1, .file file.2)))]⟩

theorem run_reports_unused_exactly_here :
    (run (treeHost Markup.parseModule) .defaults "/p" 1 sampleTree).result.status = .completed ∧
    (run (treeHost Markup.parseModule) .defaults "/p" 1 sampleTree).result.errors = .fresh ∧
    (run (treeHost Markup.parseModule) .defaults "/p" 1 sampleTree).result.unused =
      [⟨.idSelector, "0-", "/p/a.css", 2, 1⟩, ⟨.classSelector, "_", "/p/a.css", 3, 1⟩,
        ⟨.classSelector, "_", "/p/a.css", 4, 1⟩] := by
  have project : HoldsFiles sampleTree "/p" ["p"] (exactFiles sampleDeclared sampleUsed) := by
    refine ⟨?_, ⟨_, rfl, (List.reverse_perm _).map _⟩, ?_, ?_⟩
    · have spelled : filePath [] "p" = "/p" := by decide +kernel
      rw [← spelled]
      exact resolve_folder _ (by decide)
    · show ∀ part ∈ ["p", "a.css", "A.jsx"], FileName part
      decide +kernel
    · exact List.forall_mem_cons.mpr ⟨by decide +kernel,
        List.forall_mem_cons.mpr ⟨by decide +kernel, List.forall_mem_nil _⟩⟩
  have sheetFits : (Text.Utf8.encode (String.ofList (nameSheet sampleDeclared))).length ≤
      Config.defaults.maxStylesheetBytes := by
    rw [encode_length (name_sheet_kept sampleDeclared)]
    decide +kernel
  have moduleFits : (Text.Utf8.encode (String.ofList (nameModule sampleUsed))).length ≤
      Config.defaults.maxComponentBytes := by
    rw [encode_length (name_module_kept sampleUsed)]
    decide +kernel
  obtain ⟨status, errors, unused⟩ := run_reports_unused_exactly sampleDeclared sampleUsed project
    sheetFits moduleFits (parse_module_reads_names sampleUsed) 1
  exact ⟨status, errors, unused.trans (by decide +kernel)⟩

end SelectorAudit.Analysis
