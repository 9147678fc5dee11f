import SelectorAudit.Proofs.Analysis.ContentSafety
import SelectorAudit.Proofs.Analysis.RunLedger
import SelectorAudit.Proofs.Storage.RemovedFile

/-!
# Files that fail

A file that is given up or skipped leaves nothing behind that other files could notice: whatever its
extractor has found or logged before it failed, the run goes on with an empty list of records in its
place. So a run that reads the file and a run on the tree without it find the same selectors and the
same names, provided the file is not reached in another way, as a template or through a link.
-/

namespace SelectorAudit.Analysis

set_option autoImplicit false

open Report Settings Storage

/-! Readers that keep their state. -/

section

variable {State Item : Type} {parse : Markup.ModuleParser} {read : Reader State} {state : State}

def Steady (read : Reader State) (state : State) : Prop :=
  ∀ (path : String) (limit : Int), (read state path limit).2 = state

def Treatment.Steady (treatment : Treatment State Item) (state : State) : Prop :=
  ∀ (source : List Char) (path : String), (treatment.extract state source path).state = state

theorem component_usage_steady (steady : Steady read state) (limit : Int)
    (component : Markup.Component) : (component.usage read limit state).state = state := by
  unfold Markup.Component.usage
  split
  · rfl
  · rename_i url _ _
    have kept := steady (component.templatePath url) limit
    unfold Markup.externalUsage
    dsimp only
    generalize read state (component.templatePath url) limit = answer at kept
    obtain ⟨reading, after⟩ := answer
    cases reading <;> exact kept
  · rfl

theorem components_usage_steady (steady : Steady read state) (limit : Int)
    (components : List Markup.Component) :
    (Markup.componentsUsage read limit state components).state = state := by
  induction components with
  | nil => rfl
  | cons component components ih =>
      have here := component_usage_steady steady limit component
      unfold Markup.componentsUsage
      dsimp only
      split
      · exact here
      · rw [here]
        exact ih

theorem decorator_steady (steady : Steady read state) (config : Config) :
    (decoratorTreatment parse read config).Steady state := by
  intro source path
  show (Markup.decoratedUsage parse read config.maxComponentBytes state source path).state = state
  unfold Markup.decoratedUsage
  split
  · rfl
  · split
    · rfl
    · exact components_usage_steady steady _ _

theorem file_report_steady (steady : Steady read state) {treatment : Treatment State Item}
    (keeps : treatment.Steady state) (path : String) :
    (fileReport read treatment state path).state = state := by
  have kept := steady path treatment.limit
  unfold fileReport
  generalize read state path treatment.limit = answer at kept
  obtain ⟨reading, after⟩ := answer
  dsimp only at kept
  subst kept
  cases reading with
  | fault fault => rfl
  | breakdown message => rfl
  | text source =>
      dsimp only
      split
      · rfl
      · have extracted := keeps source path
        unfold extractionReport
        split <;> exact extracted

theorem files_report_steady (steady : Steady read state) {treatment : Treatment State Item}
    (keeps : treatment.Steady state) (paths : List String) :
    (filesReport read treatment state paths).state = state := by
  induction paths with
  | nil => rfl
  | cons path paths ih =>
      have here := file_report_steady steady keeps path
      unfold filesReport PartReport.andThen
      split
      · exact here
      · rw [here]
        exact ih

theorem stylesheets_steady (steady : Steady read state) (config : Config) (paths : List String) :
    (filesReport read (stylesheetTreatment config) state paths).state = state :=
  files_report_steady steady (fun _ _ => rfl) paths

theorem elements_steady (steady : Steady read state) (config : Config) (paths : List String) :
    (filesReport read (elementTreatment parse config) state paths).state = state :=
  files_report_steady steady (fun _ _ => rfl) paths

/-- The files of each kind give these records. -/
structure PartsFind (parse : Markup.ModuleParser) (read : Reader State) (config : Config)
    (work : Workload) (state : State) (selectors : List Selector)
    (elementNames decoratedNames : List UsedName) : Prop where
  stylesheets : (filesReport read (stylesheetTreatment config) state work.stylesheets).outcome =
    .ok selectors
  elementModules :
    (filesReport read (elementTreatment parse config) state work.elementModules).outcome =
      .ok elementNames
  decoratedModules :
    (filesReport read (decoratorTreatment parse read config) state work.decoratedModules).outcome =
      .ok decoratedNames

/-- Behind a steady reader the files of one kind do not depend on those of another. -/
theorem analysis_in_parts (steady : Steady read state) {config : Config} {work : Workload}
    {found : List Selector × List UsedName}
    (ended : (analysisReport parse read config work state).outcome = .ok found) :
    ∃ selectors elementNames decoratedNames, found = (selectors, elementNames ++ decoratedNames) ∧
      PartsFind parse read config work state selectors elementNames decoratedNames ∧
      (analysisReport parse read config work state).notes =
        (filesReport read (stylesheetTreatment config) state work.stylesheets).notes ++
        (filesReport read (elementTreatment parse config) state work.elementModules).notes ++
        (filesReport read (decoratorTreatment parse read config) state
          work.decoratedModules).notes := by
  unfold analysisReport at ended ⊢
  obtain ⟨_, _, ended, notes⟩ := and_then_finds ended
  obtain ⟨selectors, sheetsEnded, ended, sheetNotes⟩ := and_then_finds ended
  obtain ⟨_, _, ended, lineNotes⟩ := and_then_finds ended
  obtain ⟨elementNames, elementsEnded, ended, elementNotes⟩ := and_then_finds ended
  obtain ⟨decoratedNames, decoratedEnded, ended, decoratedNotes⟩ := and_then_finds ended
  obtain ⟨_, _, whole⟩ := map_finds ended
  rw [notes, sheetNotes, lineNotes, elementNotes, decoratedNotes]
  simp only [noted_state, stylesheets_steady steady, elements_steady steady]
    at sheetsEnded elementsEnded decoratedEnded ⊢
  exact ⟨selectors, elementNames, decoratedNames, whole.symm,
    ⟨sheetsEnded, elementsEnded, decoratedEnded⟩,
    by simp [notedReport, PartReport.map, List.append_assoc]⟩

theorem analysis_from_parts (steady : Steady read state) {config : Config} {work : Workload}
    {selectors : List Selector} {elementNames decoratedNames : List UsedName}
    (parts : PartsFind parse read config work state selectors elementNames decoratedNames) :
    (analysisReport parse read config work state).outcome =
      .ok (selectors, elementNames ++ decoratedNames) := by
  unfold analysisReport PartReport.andThen
  dsimp only [notedReport]
  rw [parts.stylesheets]
  dsimp only
  rw [stylesheets_steady steady, parts.elementModules]
  dsimp only
  rw [elements_steady steady, parts.decoratedModules]
  rfl

end

/-! Readers that answer alike. -/

section

variable {First Second Item : Type} {parse : Markup.ModuleParser} {first : Reader First}
  {second : Reader Second} {one : First} {two : Second}

def AnsweredAlike (first : Reader First) (one : First) (second : Reader Second) (two : Second)
    (path : String) : Prop :=
  ∀ limit, (second two path limit).1.gist = (first one path limit).1.gist

theorem component_usage_alike {component : Markup.Component} (limit : Int)
    (alike : ∀ url, component.templateUrl = some url →
      AnsweredAlike first one second two (component.templatePath url)) :
    (component.usage second limit two).outcome = (component.usage first limit one).outcome := by
  unfold Markup.Component.usage
  split
  · rfl
  · rename_i url _ reference
    have same := alike url reference limit
    unfold Markup.externalUsage
    dsimp only
    generalize first one (component.templatePath url) limit = answer at same
    generalize second two (component.templatePath url) limit = other at same
    obtain ⟨reading, after⟩ := answer
    obtain ⟨reading', after'⟩ := other
    rcases gist_cases same with equal | ⟨fault, fault', failed, failed'⟩
    · dsimp only at equal
      rw [equal]
      cases reading <;> rfl
    · dsimp only at failed failed'
      rw [failed, failed']
  · rfl

theorem components_usage_alike (steady : Steady first one) (steadyToo : Steady second two)
    (limit : Int) {components : List Markup.Component}
    (alike : ∀ component ∈ components, ∀ url, component.templateUrl = some url →
      AnsweredAlike first one second two (component.templatePath url)) :
    (Markup.componentsUsage second limit two components).outcome =
      (Markup.componentsUsage first limit one components).outcome := by
  induction components with
  | nil => rfl
  | cons component components ih =>
      obtain ⟨here, later⟩ := List.forall_mem_cons.mp alike
      have same := component_usage_alike limit here
      unfold Markup.componentsUsage
      dsimp only
      rw [component_usage_steady steady, component_usage_steady steadyToo, same, ih later]
      cases ended : (component.usage first limit one).outcome with
      | error message => exact same
      | ok used => rfl

/-- The names of a module are the same if its templates are answered alike. -/
theorem decorated_usage_alike (steady : Steady first one) (steadyToo : Steady second two)
    (limit : Int) {source : List Char} {file : String}
    (alike : ∀ component ∈ (Markup.findComponents parse source file).components,
      ∀ url, component.templateUrl = some url →
        AnsweredAlike first one second two (component.templatePath url)) :
    (Markup.decoratedUsage parse second limit two source file).outcome =
      (Markup.decoratedUsage parse first limit one source file).outcome := by
  unfold Markup.decoratedUsage
  split
  · rfl
  · split
    · rfl
    · exact components_usage_alike steady steadyToo limit alike

theorem file_report_alike {treatment : Treatment First Item} {seen : Treatment Second Item}
    {path : String} (limits : seen.limit = treatment.limit)
    (alike : AnsweredAlike first one second two path) (steady : Steady first one)
    (steadyToo : Steady second two)
    (extracts : ∀ source, (first one path treatment.limit).1 = .text source →
      (seen.extract two source path).outcome = (treatment.extract one source path).outcome) :
    (fileReport second seen two path).outcome = (fileReport first treatment one path).outcome := by
  have same := alike treatment.limit
  have kept := steady path treatment.limit
  have keptToo := steadyToo path treatment.limit
  unfold fileReport
  rw [limits]
  generalize first one path treatment.limit = answer at same kept extracts
  generalize second two path treatment.limit = other at same keptToo
  obtain ⟨reading, after⟩ := answer
  obtain ⟨reading', after'⟩ := other
  dsimp only at same kept keptToo extracts
  subst kept keptToo
  rcases gist_cases same with rfl | ⟨fault, fault', rfl, rfl⟩
  · cases reading' with
    | fault fault => rfl
    | breakdown message => rfl
    | text source =>
        dsimp only
        split
        · rfl
        · have outcomes := extracts source rfl
          unfold extractionReport
          rw [outcomes]
          split <;> rfl
  · rfl

/-- Files are read as before, but for one that leaves nothing behind. -/
theorem files_report_less {treatment : Treatment First Item} {seen : Treatment Second Item}
    (steady : Steady first one) (steadyToo : Steady second two) (keeps : treatment.Steady one)
    (keepsToo : seen.Steady two) {lost : String} {paths : List String} {items : List Item}
    (alike : ∀ path ∈ paths, path ≠ lost →
      (fileReport second seen two path).outcome = (fileReport first treatment one path).outcome)
    (fails : ∀ note ∈ (filesReport first treatment one paths).notes, note.path = lost →
      note.outcome ≠ .succeeded)
    (ended : (filesReport first treatment one paths).outcome = .ok items) :
    (filesReport second seen two (paths.filter fun path => path != lost)).outcome = .ok items := by
  induction paths generalizing items with
  | nil => exact ended
  | cons path paths ih =>
      obtain ⟨here, later⟩ := List.forall_mem_cons.mp alike
      obtain ⟨found, firstEnded, restEnded, notes⟩ := and_then_finds ended
      rw [file_report_steady steady keeps] at restEnded notes
      obtain ⟨more, laterEnded, joined⟩ := map_finds restEnded
      obtain ⟨outcome, note, empty⟩ := file_report_note firstEnded
      rw [filesReport, notes, note] at fails
      obtain ⟨failsHere, failsLater⟩ := List.forall_mem_cons.mp fails
      have rest := ih later failsLater laterEnded
      by_cases same : path = lost
      · have nothing : found = [] := empty (failsHere same)
        rw [List.filter_cons_of_neg (by simp [same]), rest, ← joined, nothing]
        rfl
      · rw [List.filter_cons_of_pos (by simp [same])]
        unfold filesReport PartReport.andThen
        rw [here same, firstEnded, file_report_steady steadyToo keepsToo]
        dsimp only [PartReport.map]
        rw [rest, ← joined]
        rfl

/-- A workload without a file. -/
def Workload.less (work : Workload) (lost : String) : Workload :=
  { stylesheets := work.stylesheets.filter fun path => path != lost
    elementModules := work.elementModules.filter fun path => path != lost
    decoratedModules := work.decoratedModules.filter fun path => path != lost
    unhandled := work.unhandled.filter fun path => path != lost }

theorem workload_less (config : Config) (stylesheets components : List String) (lost : String) :
    workload config (stylesheets.filter fun path => path != lost)
        (components.filter fun path => path != lost) =
      (workload config stylesheets components).less lost := by
  simp [workload, Workload.less, List.filter_filter, Bool.and_comm]

/-- But for one file, the files of a workload are answered alike, and so are the templates that its
decorated modules refer to. -/
structure WorkloadAlike (parse : Markup.ModuleParser) (first : Reader First) (one : First)
    (second : Reader Second) (two : Second) (config : Config) (work : Workload) (lost : String) :
    Prop where
  stylesheets : ∀ path ∈ work.stylesheets, path ≠ lost → AnsweredAlike first one second two path
  elementModules : ∀ path ∈ work.elementModules, path ≠ lost →
    AnsweredAlike first one second two path
  decoratedModules : ∀ path ∈ work.decoratedModules, path ≠ lost →
    AnsweredAlike first one second two path
  templates : ∀ path ∈ work.decoratedModules, ∀ source,
    (first one path config.maxComponentBytes).1 = .text source →
    ∀ component ∈ (Markup.findComponents parse source path).components,
    ∀ url, component.templateUrl = some url →
      AnsweredAlike first one second two (component.templatePath url)

theorem analysis_report_less (steady : Steady first one) (steadyToo : Steady second two)
    {config : Config} {work : Workload} {lost : String}
    (alike : WorkloadAlike parse first one second two config work lost)
    (fails : ∀ note ∈ (analysisReport parse first config work one).notes, note.path = lost →
      note.outcome ≠ .succeeded)
    {found : List Selector × List UsedName}
    (ended : (analysisReport parse first config work one).outcome = .ok found) :
    (analysisReport parse second config (work.less lost) two).outcome = .ok found := by
  obtain ⟨selectors, elementNames, decoratedNames, rfl, parts, notes⟩ :=
    analysis_in_parts steady ended
  rw [notes] at fails
  obtain ⟨others, decoratedFail⟩ := List.forall_mem_append.mp fails
  obtain ⟨sheetsFail, elementsFail⟩ := List.forall_mem_append.mp others
  apply analysis_from_parts steadyToo
  refine ⟨?_, ?_, ?_⟩
  · apply files_report_less steady steadyToo (fun _ _ => rfl) (fun _ _ => rfl) _ sheetsFail
      parts.stylesheets
    intro path member other
    exact file_report_alike rfl (alike.stylesheets path member other) steady steadyToo
      fun _ _ => rfl
  · apply files_report_less steady steadyToo (fun _ _ => rfl) (fun _ _ => rfl) _ elementsFail
      parts.elementModules
    intro path member other
    exact file_report_alike rfl (alike.elementModules path member other) steady steadyToo
      fun _ _ => rfl
  · apply files_report_less steady steadyToo (decorator_steady steady config)
      (decorator_steady steadyToo config) _ decoratedFail parts.decoratedModules
    intro path member other
    have limits : (decoratorTreatment parse second config).limit =
        (decoratorTreatment parse first config).limit := rfl
    apply file_report_alike limits (alike.decoratedModules path member other) steady steadyToo
    intro source text
    exact congrArg (Except.mapError Failure.breakdown) (decorated_usage_alike steady steadyToo
      config.maxComponentBytes (alike.templates path member source text))

end

/-! Trees with and without the file. -/

/-- A component of a discovered module has the file at a location for its template. -/
def NamedAsTemplate (parse : Markup.ModuleParser) (tree : FileTree) (config : Config)
    (root : String) (file : Location) : Prop :=
  ∃ path ∈ discover tree root config.componentFileTypes config.excludePatterns,
    ∃ source, tree.read path config.maxComponentBytes = .text source ∧
    ∃ component ∈ (Markup.findComponents parse source path).components,
    ∃ url, component.templateUrl = some url ∧
      tree.locate (component.templatePath url) = .ok file

/-- A link leads to the file at a location. -/
def ReachedByLink (tree : FileTree) (file : Location) : Prop :=
  ∃ parents last target, tree.at? (parents ++ [last]) = some (.link target) ∧
    tree.follow linkLimit parents [last] = .ok file

theorem refused_gist (refusal : Option AccessFault) {first second : Reading}
    (alike : first.gist = second.gist) :
    (refused refusal first).gist = (refused refusal second).gist := by
  rcases gist_cases alike with rfl | ⟨fault, other, rfl, rfl⟩
  · rfl
  · cases refusal <;> rfl

section

variable {parse : Markup.ModuleParser} {tree : FileTree} {folder : Location} {name : String}
  {content : Text.Utf8.Bytes}

theorem answered_without {file : Location} (present : tree.at? file = some (.file content))
    (refusal : String → Option AccessFault) {path : String}
    (elsewhere : tree.locate path ≠ .ok file) (tidy : Path.tidy path = path) :
    AnsweredAlike ((treeHost parse).refusing refusal).read tree
      ((treeHost parse).refusing refusal).read (tree.without file) path := by
  intro limit
  exact refused_gist _ (read_without present elsewhere tidy limit)

theorem discovered_elsewhere (proper : tree.root.WellNamed)
    (unlinked : ¬ ReachedByLink tree (folder ++ [name])) {root path : String}
    {extensions patterns : List String} (member : path ∈ discover tree root extensions patterns)
    (other : path ≠ filePath folder name) :
    tree.locate path ≠ .ok (folder ++ [name]) ∧ Path.tidy path = path := by
  obtain ⟨parents, last, entry, rfl, there, _⟩ := discover_spells proper member
  have names := (well_named_descend proper there).1
  refine ⟨?_, file_path_tidy names⟩
  intro located
  rcases locate_file_path there names located with same | ⟨target, rfl, followed⟩
  · obtain ⟨rfl, last⟩ := List.append_inj' same rfl
    exact other (by rw [(List.cons.inj last).1])
  · exact unlinked ⟨parents, last, target, there, followed⟩

theorem workload_without (proper : tree.root.WellNamed)
    (present : tree.at? (folder ++ [name]) = some (.file content))
    (refusal : String → Option AccessFault) {config : Config} {root : String}
    (untemplated : ¬ NamedAsTemplate parse tree config root (folder ++ [name]))
    (unlinked : ¬ ReachedByLink tree (folder ++ [name])) :
    WorkloadAlike parse ((treeHost parse).refusing refusal).read tree
      ((treeHost parse).refusing refusal).read (tree.without (folder ++ [name])) config
      (workload config (discover tree root config.includeFileTypes config.excludePatterns)
        (discover tree root config.componentFileTypes config.excludePatterns))
      (filePath folder name) := by
  have discovered : ∀ extensions patterns, ∀ path ∈ discover tree root extensions patterns,
      path ≠ filePath folder name → AnsweredAlike ((treeHost parse).refusing refusal).read tree
        ((treeHost parse).refusing refusal).read (tree.without (folder ++ [name])) path := by
    intro extensions patterns path member other
    obtain ⟨elsewhere, tidy⟩ := discovered_elsewhere proper unlinked member other
    exact answered_without present refusal elsewhere tidy
  constructor
  · exact discovered _ _
  · exact fun path member => discovered _ _ path (List.mem_filter.mp member).1
  · exact fun path member => discovered _ _ path (List.mem_filter.mp member).1
  · intro path member source text component found url reference
    apply answered_without present refusal _ (Path.tidy_resolve _ _)
    intro located
    exact untemplated ⟨path, (List.mem_filter.mp member).1, source, text_of_refused text, component,
      found, url, reference, located⟩

/-- A file that is given up or skipped whenever it is read, and that is reached neither as a
template nor through a link, is as good as absent: a run finds what it finds without the file. -/
theorem failing_file_as_absent (parse : Markup.ModuleParser) (proper : tree.root.WellNamed)
    (refusal : String → Option AccessFault) {options : Options} {config : Config}
    (valid : validate options = .ok config) (root : String) (generation later : Nat)
    (present : tree.at? (folder ++ [name]) = some (.file content))
    (fails : ∀ note ∈ runNotes ((treeHost parse).refusing refusal) options root tree,
      note.path = filePath folder name → note.outcome ≠ .succeeded)
    (untemplated : ¬ NamedAsTemplate parse tree config root (folder ++ [name]))
    (unlinked : ¬ ReachedByLink tree (folder ++ [name]))
    (completed : (run ((treeHost parse).refusing refusal) options root generation
      tree).result.status = .completed)
    (completedToo : (run ((treeHost parse).refusing refusal) options root later
      (tree.remove (filePath folder name))).result.status = .completed) :
    let result := (run ((treeHost parse).refusing refusal) options root generation tree).result
    let without := (run ((treeHost parse).refusing refusal) options root later
      (tree.remove (filePath folder name))).result
    result.selectors = without.selectors ∧ result.used = without.used ∧
      result.unused = without.unused := by
  have names := (well_named_descend proper present).1
  rw [remove_file_path tree names] at completedToo ⊢
  obtain ⟨config', _, _, _, _, valid', ⟨⟩, ⟨⟩, analyzed, found⟩ := completed_analysis completed
  obtain ⟨config'', _, _, _, _, valid'', ⟨⟩, ⟨⟩, _, foundToo⟩ := completed_analysis completedToo
  obtain rfl : config = config' := Except.ok.inj (valid.symm.trans valid')
  obtain rfl : config = config'' := Except.ok.inj (valid.symm.trans valid'')
  rw [runNotes, analyzed] at fails
  -- The files that are left are those of the workload less the one, so both analyses compare.
  have less := analysis_report_less (fun _ _ => rfl) (fun _ _ => rfl)
    (workload_without proper present refusal untemplated unlinked) fails found
  rw [← workload_less, ← discover_without proper present, ← discover_without proper present] at less
  obtain ⟨selectors, used⟩ := Prod.mk.inj (Except.ok.inj (less.symm.trans foundToo))
  refine ⟨selectors, used, ?_⟩
  rw [(run_shown _ options root generation tree).unused,
    (run_shown _ options root later (tree.without (folder ++ [name]))).unused, selectors, used]

end

/-! A project with such a file. -/

/-- A directory of files below the root. -/
def folderOf (files : List (String × Text.Utf8.Bytes)) : FileTree :=
  ⟨[("p", .directory (files.map fun file => (file.1, .file file.2)))]⟩

def folderReader (files : List (String × Text.Utf8.Bytes)) : Reader Unit := fun _ path limit =>
  match files.find? fun file => path = filePath ["p"] file.1 ∧ (file.2.length : Int) ≤ limit with
  | some file => (.text (FileTree.textOf file.2), ())
  | none => ((folderOf files).read path limit, ())

/-- Files of distinct names that the system accepts, in the order of their paths. -/
structure FolderFiles (files : List (String × Text.Utf8.Bytes)) : Prop where
  names : ∀ part ∈ ["p"] ++ files.map Prod.fst, FileName part
  short : ∀ file ∈ files, (filePath ["p"] file.1).utf8ByteSize < pathLimit
  distinct : (files.map Prod.fst).Nodup
  ordered : ((files.map Prod.fst).map (filePath ["p"])).Pairwise fun a b => decide (a ≤ b) = true

section

variable {files : List (String × Text.Utf8.Bytes)}

theorem folder_held (fine : FolderFiles files) : HoldsFiles (folderOf files) "/p" ["p"] files := by
  refine ⟨?_, ⟨_, rfl, .refl _⟩, fine.names, fine.short⟩
  have spelled : filePath [] "p" = "/p" := by decide +kernel
  rw [← spelled]
  exact resolve_folder _ (by decide)

theorem folder_reader_image (fine : FolderFiles files) :
    ReadThrough (fun _ : Unit => folderOf files) (folderReader files)
      (treeHost Markup.parseModule).read := by
  intro state path limit
  show ((folderOf files).read path limit, folderOf files) =
    Prod.map id _ (folderReader files state path limit)
  unfold folderReader
  split
  · rename_i file found
    have asked := List.find?_some found
    rw [decide_eq_true_iff] at asked
    obtain ⟨rfl, small⟩ := asked
    rw [read_held (folder_held fine) fine.distinct (List.mem_of_find?_eq_some found) small]
    rfl
  · rfl

theorem folder_discover (fine : FolderFiles files) (extensions patterns : List String) :
    discover (folderOf files) "/p" extensions patterns =
      ((files.map Prod.fst).filter fun name =>
        (Search.of extensions patterns).wants name name).map (filePath ["p"]) := by
  have flat : ∀ entry ∈ files.map fun file => (file.1, Entry.file file.2),
      ∃ content, entry.2 = Entry.file content := by
    intro entry member
    obtain ⟨file, _, rfl⟩ := List.mem_map.mp member
    exact ⟨file.2, rfl⟩
  have names : (files.map fun file => (file.1, Entry.file file.2)).map Prod.fst =
      files.map Prod.fst := by
    simp [Function.comp_def]
  rw [discover_flat (folder_held fine).resolved rfl flat, names]
  exact List.mergeSort_of_pairwise (fine.ordered.sublist (List.filter_sublist.map _))

theorem folder_well_named (fine : FolderFiles files) : (folderOf files).root.WellNamed := by
  obtain ⟨folder, inside⟩ := List.forall_mem_append.mp fine.names
  refine .directory (List.pairwise_singleton _ _)
    (List.forall_mem_singleton.mpr (folder _ List.mem_cons_self))
    (List.forall_mem_singleton.mpr (.directory ?_ ?_ ?_))
  · simpa [Function.comp_def] using fine.distinct
  · intro entry member
    obtain ⟨file, among, rfl⟩ := List.mem_map.mp member
    exact inside file.1 (List.mem_map_of_mem among)
  · intro entry member
    obtain ⟨file, _, rfl⟩ := List.mem_map.mp member
    exact .file file.2

theorem folder_unlinked (file : Location) : ¬ ReachedByLink (folderOf files) file := by
  rintro ⟨parents, last, target, there, _⟩
  generalize parents ++ [last] = location at there
  cases location with
  | nil => simp [folderOf, FileTree.at?, FileTree.root, Entry.descend?] at there
  | cons first more =>
      obtain ⟨_, child, ⟨⟩, inside, below⟩ := descend_cons there
      obtain ⟨_, rfl⟩ := Prod.mk.inj (List.mem_singleton.mp (mem_of_lookup inside))
      cases more with
      | nil => simp [Entry.descend?] at below
      | cons second rest =>
          obtain ⟨_, _, ⟨⟩, held, below⟩ := descend_cons below
          obtain ⟨file, _, shape⟩ := List.mem_map.mp (mem_of_lookup held)
          rw [← (Prod.mk.inj shape).2, file_descend] at below
          split at below <;> cases below

theorem folder_run (fine : FolderFiles files) (sheets : List String)
    (found : ((files.map Prod.fst).filter fun name =>
      (Search.of Config.defaults.includeFileTypes Config.defaults.excludePatterns).wants
        name name).map (filePath ["p"]) = sheets)
    (alone : ((files.map Prod.fst).filter fun name =>
      (Search.of Config.defaults.componentFileTypes Config.defaults.excludePatterns).wants
        name name) = [])
    (enough : ¬ sheets.length < Config.defaults.minFilesForAnalysis) :
    run (treeHost Markup.parseModule) .defaults "/p" 0 (folderOf files) =
      (analyze Markup.parseModule (folderReader files) .defaults (workload .defaults sheets [])
        "/p" 0 (.start () (.started "/p" 0))).through fun _ => folderOf files := by
  have analyzed : run (treeHost Markup.parseModule) .defaults "/p" 0 (folderOf files) =
      analyze Markup.parseModule (treeHost Markup.parseModule).read .defaults
        (workload .defaults sheets []) "/p" 0 (.start (folderOf files) (.started "/p" 0)) := by
    unfold run
    rw [validate_defaults]
    dsimp only [treeHost]
    rw [folder_discover fine, folder_discover fine, found, alone]
    exact if_neg enough
  rw [analyzed]
  exact analyze_through Markup.parseModule (folder_reader_image fine) .defaults _ "/p" 0
    (.start () (.started "/p" 0))

end

def soundSheet : Text.Utf8.Bytes := ".x \x7b \x7d".toList.map fun c => c.toNat.toUInt8

/-- A sheet that declares a name and then opens a block that it does not close. -/
def brokenSheet : Text.Utf8.Bytes := ".y \x7b \x7d .z \x7b".toList.map fun c => c.toNat.toUInt8

def soundFiles : List (String × Text.Utf8.Bytes) := [("a.css", soundSheet)]

def brokenFiles : List (String × Text.Utf8.Bytes) := soundFiles ++ [("b.css", brokenSheet)]

theorem sound_fine : FolderFiles soundFiles :=
  ⟨by decide, by decide, by decide, by decide +kernel⟩

theorem broken_fine : FolderFiles brokenFiles :=
  ⟨by decide, by decide, by decide, by decide +kernel⟩

theorem broken_removed :
    (folderOf brokenFiles).remove (filePath ["p"] "b.css") = folderOf soundFiles := by
  have names : ∀ part ∈ ["p"] ++ ["b.css"], FileName part := by decide
  rw [remove_file_path _ names]
  unfold FileTree.without folderOf FileTree.root
  rw [List.singleton_append, remove_deep List.lookup_cons_self (by simp), remove_single]
  rfl

theorem broken_alone : ((brokenFiles.map Prod.fst).filter fun name =>
    (Search.of Config.defaults.componentFileTypes Config.defaults.excludePatterns).wants
      name name) = [] := by
  decide +kernel

theorem sound_completed :
    (run (treeHost Markup.parseModule) .defaults "/p" 0
      (folderOf soundFiles)).result.status = .completed := by
  rw [folder_run sound_fine [filePath ["p"] "a.css"] (by decide +kernel) (by decide +kernel)
    (by decide)]
  decide +kernel

theorem broken_told :
    (run (treeHost Markup.parseModule) .defaults "/p" 0
      (folderOf brokenFiles)).result.status = .completed ∧
    ∀ event ∈ (run (treeHost Markup.parseModule) .defaults "/p" 0 (folderOf brokenFiles)).events,
      (fileOf? event).map Prod.fst = some (filePath ["p"] "b.css") → tellsFailure event = true := by
  rw [folder_run broken_fine [filePath ["p"] "a.css", filePath ["p"] "b.css"] (by decide +kernel)
    broken_alone (by decide)]
  decide +kernel

/-- The hypotheses hold of a sheet that fails behind a rule, and so the run agrees with the one
without the sheet. -/
theorem unclosed_sheet_as_absent :
    (folderOf brokenFiles).at? (["p"] ++ ["b.css"]) = some (.file brokenSheet) ∧
    let result := (run ((treeHost Markup.parseModule).refusing fun _ => none) .defaults "/p" 0
      (folderOf brokenFiles)).result
    let without := (run ((treeHost Markup.parseModule).refusing fun _ => none) .defaults "/p" 0
      ((folderOf brokenFiles).remove (filePath ["p"] "b.css"))).result
    result.selectors = without.selectors ∧ result.used = without.used ∧
      result.unused = without.unused := by
  have present : (folderOf brokenFiles).at? (["p"] ++ ["b.css"]) = some (.file brokenSheet) := rfl
  refine ⟨present, failing_file_as_absent Markup.parseModule (folder_well_named broken_fine)
    (fun _ => none) validate_defaults "/p" 0 0 present ?_ ?_ (folder_unlinked _) ?_ ?_⟩
  · rw [refusing_nothing]
    intro note member same succeeded
    obtain ⟨_, last, _, events⟩ :=
      run_noted (treeHost Markup.parseModule) .defaults "/p" 0 (folderOf brokenFiles)
    have told := broken_told.2 note.event (by
      rw [events]
      exact List.mem_append_left _ (List.mem_cons_of_mem _ (List.mem_map_of_mem member)))
      (congrArg some same)
    rw [FileNote.event, succeeded] at told
    cases told
  · rintro ⟨path, member, _⟩
    rw [folder_discover broken_fine, broken_alone] at member
    cases member
  · rw [refusing_nothing]
    exact broken_told.1
  · rw [refusing_nothing, broken_removed]
    exact sound_completed

end SelectorAudit.Analysis
