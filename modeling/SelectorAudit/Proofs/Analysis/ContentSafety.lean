import SelectorAudit.Analysis.Session
import SelectorAudit.Proofs.Analysis.AllOrNothing
import SelectorAudit.Proofs.Storage.FlatDirectory

/-!
# What the content of files can do to a run

Whatever the files of a project hold, and whichever of them the system refuses to read, a run with
valid options gives up for one reason only: a component refers to its template by a path with a NUL,
which no file can have. Asking for such a path is not a failure to read one file; it breaks the run
down. Short of that a run completes or is skipped, and all that it logs is recoverable.
-/

namespace SelectorAudit.Analysis

set_option autoImplicit false

open Report Settings Storage
open Markup (parseModule)

/-- An answer in place of which the system may refuse. -/
def refused (refusal : Option AccessFault) : Reading → Reading
  | .breakdown message => .breakdown message
  | answer => (refusal.map Reading.fault).getD answer

/-- A host on which the system refuses to read some files. -/
def Host.refusing {State : Type} (host : Host State) (refusal : String → Option AccessFault) :
    Host State :=
  { host with
    read := fun state path limit =>
      (refused (refusal path) (host.read state path limit).1, (host.read state path limit).2) }

def heldHost (parse : Markup.ModuleParser) (tree : FileTree)
    (refusal : String → Option AccessFault) : Host Unit where
  discover _ root extensions patterns := (.ok (discover tree root extensions patterns), ())
  read _ path limit := (refused (refusal path) (tree.read path limit), ())
  parse := parse

section

variable {parse : Markup.ModuleParser}

theorem held_image (tree : FileTree) (refusal : String → Option AccessFault) :
    Host.Image (fun asked : Unit × List Request => (tree, asked.2))
      (heldHost parse tree refusal).traced ((treeHost parse).refusing refusal).traced := by
  constructor
  · intro state root extensions patterns
    simp only [Host.traced, Host.refusing, treeHost, heldHost, Prod.map, id]
  · intro state path limit
    simp only [Host.traced, Host.refusing, treeHost, heldHost, Prod.map, id]
  · rfl

theorem held_requests (tree : FileTree) (refusal : String → Option AccessFault)
    (options : Options) (root : String) (generation : Nat) :
    requestsOf ((treeHost parse).refusing refusal) options root generation tree =
      requestsOf (heldHost parse tree refusal) options root generation () := by
  unfold requestsOf
  rw [run_through (held_image tree refusal) options root generation ((), [])]
  rfl

/-! Components know the file they stand in. -/

theorem with_entry_file (component : Markup.Component) (entry : String × Markup.Node) :
    (component.withEntry entry).file = component.file := by
  unfold Markup.Component.withEntry
  split
  · rfl
  · split <;> rfl
  · split <;> rfl
  · split <;> rfl
  · rfl

theorem found_component_file {source : List Char} {file : String} {component : Markup.Component}
    (member : component ∈ (Markup.findComponents parse source file).components) :
    component.file = file := by
  obtain ⟨object, _, rfl⟩ := List.mem_map.mp (List.mem_filter.mp member).1
  unfold Markup.componentOf
  generalize object.entries = entries
  have kept : ∀ start : Markup.Component,
      (entries.foldl Markup.Component.withEntry start).file = start.file := by
    induction entries with
    | nil => exact fun _ => rfl
    | cons entry later ih =>
        intro start
        exact (ih (start.withEntry entry)).trans (with_entry_file start entry)
  exact kept _

/-! What a run on a tree asks for. -/

/-- The path of a template that a discovered module refers to by a text with a NUL. -/
def NulReference (parse : Markup.ModuleParser) (tree : FileTree) (config : Config)
    (root path : String) : Prop :=
  ∃ file ∈ discover tree root config.componentFileTypes config.excludePatterns,
    ∃ source, tree.read file config.maxComponentBytes = .text source ∧
    ∃ component ∈ (Markup.findComponents parse source file).components,
    ∃ url, component.templateUrl = some url ∧ nul ∈ url.toList ∧
      path = component.templatePath url

theorem text_of_refused {refusal : Option AccessFault} {answer : Reading} {source : List Char}
    (given : refused refusal answer = .text source) : answer = .text source := by
  cases answer with
  | breakdown message => cases given
  | fault fault => cases refusal <;> cases given
  | text content =>
      cases refusal with
      | none => exact given
      | some fault => cases given

theorem refused_breaks_down_iff (tree : FileTree) (refusal : Option AccessFault) (path : String)
    (limit : Int) :
    (Request.reading path (refused refusal (tree.read path limit))).failed = true ↔
      nul ∈ path.toList := by
  rw [← read_breaks_down_iff tree path limit]
  cases tree.read path limit with
  | breakdown message => exact iff_of_true rfl ⟨message, rfl⟩
  | fault fault => cases refusal <;> exact iff_of_false (by rintro ⟨⟩) (by rintro ⟨_, ⟨⟩⟩)
  | text content => cases refusal <;> exact iff_of_false (by rintro ⟨⟩) (by rintro ⟨_, ⟨⟩⟩)

theorem workload_nul_references {tree : FileTree} (clean : tree.root.cleanNames = true)
    (refusal : String → Option AccessFault) (config : Config) (root : String) :
    WorkloadWanted (fun path => nul ∈ path.toList → NulReference parse tree config root path)
      (heldHost parse tree refusal) config
      (workload config (discover tree root config.includeFileTypes config.excludePatterns)
        (discover tree root config.componentFileTypes config.excludePatterns)) := by
  have sheets := clean_discover clean root config.includeFileTypes config.excludePatterns
  have modules := clean_discover clean root config.componentFileTypes config.excludePatterns
  constructor
  · intro path member holds
    exact absurd holds (sheets path member)
  · intro path member holds
    exact absurd holds (modules path (List.mem_filter.mp member).1)
  · intro path member holds
    exact absurd holds (modules path (List.mem_filter.mp member).1)
  · intro file member _ source text component found url reference holds
    have discovered := (List.mem_filter.mp member).1
    have same : component.file = file := found_component_file found
    refine ⟨file, discovered, source, text_of_refused text, component, found, url, reference, ?_,
      rfl⟩
    unfold Markup.Component.templatePath at holds
    rw [same] at holds
    exact Path.nul_of_resolve (modules file discovered) holds

theorem held_asked {tree : FileTree} (clean : tree.root.cleanNames = true)
    (refusal : String → Option AccessFault) {options : Options} {config : Config}
    (valid : validate options = .ok config) (root : String) (generation : Nat) :
    ∃ stylesheets components readings,
      requestsOf (heldHost parse tree refusal) options root generation () =
        .listing (.ok stylesheets) :: .listing (.ok components) :: readings ∧
      ∀ request ∈ readings, request.ReadsSuch (heldHost parse tree refusal)
        fun path => nul ∈ path.toList → NulReference parse tree config root path := by
  refine ⟨discover tree root config.includeFileTypes config.excludePatterns,
    discover tree root config.componentFileTypes config.excludePatterns, ?_⟩
  rw [requests_eq]
  unfold ending
  rw [valid]
  dsimp only [Host.traced, heldHost]
  split
  · exact ⟨[], rfl, List.forall_mem_nil _⟩
  · obtain ⟨readings, trace, reads, _⟩ := analysis_report_asked (heldHost parse tree refusal) config
      ((), [.listing (.ok _), .listing (.ok _)]) (workload_nul_references clean refusal config root)
    exact ⟨readings, trace, reads⟩

end

/-- Whatever its files hold and whatever the parser makes of them, a run on a file tree is aborted
exactly if it asks for a template by a reference with a NUL; any other run logs recoverable records
only. -/
theorem content_aborts_only_by_nul_reference (parse : Markup.ModuleParser) {tree : FileTree}
    (clean : tree.root.cleanNames = true) (refusal : String → Option AccessFault)
    {options : Options} {config : Config} (valid : validate options = .ok config) (root : String)
    (generation : Nat) :
    let host := (treeHost parse).refusing refusal
    ((run host options root generation tree).result.status = .aborted ↔
      ∃ path answer, nul ∈ path.toList ∧ NulReference parse tree config root path ∧
        Request.reading path answer ∈ requestsOf host options root generation tree) ∧
    ((run host options root generation tree).result.status ≠ .aborted →
      AllRecoverable (errorHistory host options root generation tree)) := by
  intro host
  refine ⟨?_, history_recoverable _ options root generation tree⟩
  have valid' : ¬ ∃ fault, validate options = .error fault := by
    rintro ⟨fault, invalid⟩
    rw [valid] at invalid
    cases invalid
  obtain ⟨stylesheets, components, readings, trace, reads⟩ :=
    held_asked clean refusal valid root generation
  rw [run_aborted_iff, or_iff_right valid', held_requests, trace]
  constructor
  · rintro ⟨request, member, failed⟩
    have among : request ∈ readings := by
      rcases List.mem_cons.mp member with first | member
      · rw [first] at failed
        cases failed
      · rcases List.mem_cons.mp member with second | member
        · rw [second] at failed
          cases failed
        · exact member
    cases request with
    | listing answer => exact (reads _ among).elim
    | reading path answer =>
        obtain ⟨blamed, _, limit, given⟩ := reads _ among
        have holds : nul ∈ path.toList := by
          rw [given] at failed
          exact (refused_breaks_down_iff tree (refusal path) path limit).mp failed
        exact ⟨path, answer, holds, blamed holds, member⟩
  · rintro ⟨path, answer, holds, _, member⟩
    refine ⟨_, member, ?_⟩
    have among : Request.reading path answer ∈ readings := by
      simpa using member
    obtain ⟨_, _, limit, given⟩ := reads _ among
    rw [given]
    exact (refused_breaks_down_iff tree (refusal path) path limit).mpr holds

/-! A project with such a reference. -/

def nulSheet : Text.Utf8.Bytes := ".x \x7b \x7d".toList.map fun c => c.toNat.toUInt8

def nulModule : Text.Utf8.Bytes :=
  "@Component(\x7btemplateUrl: '\x00'\x7d)\nclass A \x7b\x7d\n".toList.map fun c => c.toNat.toUInt8

/-- A style sheet, and a component whose template is named by a NUL. -/
def nulEntries : List (String × Entry) := [("a.css", .file nulSheet), ("c.ts", .file nulModule)]

def nulProject : FileTree := ⟨[("p", .directory nulEntries)]⟩

theorem nul_project_held :
    HoldsFiles nulProject "/p" ["p"] [("a.css", nulSheet), ("c.ts", nulModule)] := by
  refine ⟨?_, ⟨nulEntries, rfl, .refl _⟩, by decide, ?_⟩
  · have spelled : filePath [] "p" = "/p" := by decide +kernel
    rw [← spelled]
    exact resolve_folder nulEntries (by decide)
  · exact List.forall_mem_cons.mpr ⟨by decide,
      List.forall_mem_cons.mpr ⟨by decide, List.forall_mem_nil _⟩⟩

/-- The answers of the project's host where its two files are asked for in full. -/
def nulReader : Reader Unit := fun _ path limit =>
  if path = filePath ["p"] "a.css" ∧ (nulSheet.length : Int) ≤ limit then
    (.text (FileTree.textOf nulSheet), ())
  else if path = filePath ["p"] "c.ts" ∧ (nulModule.length : Int) ≤ limit then
    (.text (FileTree.textOf nulModule), ())
  else (nulProject.read path limit, ())

theorem nul_reader_image :
    ReadThrough (fun _ : Unit => nulProject) nulReader (treeHost parseModule).read := by
  intro state path limit
  show (nulProject.read path limit, nulProject) = Prod.map id _ (nulReader state path limit)
  unfold nulReader
  split
  · rename_i asked
    rw [asked.1, read_held nul_project_held (by decide) List.mem_cons_self asked.2]
    rfl
  · split
    · rename_i asked
      rw [asked.1, read_held nul_project_held (by decide)
        (List.mem_cons_of_mem _ List.mem_cons_self) asked.2]
      rfl
    · rfl

def nulWork : Workload :=
  workload .defaults [filePath ["p"] "a.css"] [filePath ["p"] "c.ts"]

theorem nul_project_aborted :
    (run (treeHost parseModule) .defaults "/p" 0 nulProject).result.status = .aborted := by
  have sheets : discover nulProject "/p" Config.defaults.includeFileTypes
      Config.defaults.excludePatterns = [filePath ["p"] "a.css"] :=
    discover_single nul_project_held (by decide +kernel)
  have modules : discover nulProject "/p" Config.defaults.componentFileTypes
      Config.defaults.excludePatterns = [filePath ["p"] "c.ts"] :=
    discover_single nul_project_held (by decide +kernel)
  have analyzed : run (treeHost parseModule) .defaults "/p" 0 nulProject =
      analyze parseModule (treeHost parseModule).read .defaults nulWork "/p" 0
        (.start nulProject (.started "/p" 0)) := by
    unfold run
    rw [validate_defaults]
    dsimp only [treeHost]
    rw [sheets, modules]
    exact if_neg (by decide)
  -- The tree follows paths by a recursion that does not evaluate; the reader answers in its place.
  have through : analyze parseModule (treeHost parseModule).read .defaults nulWork "/p" 0
      (.start nulProject (.started "/p" 0)) =
      (analyze parseModule nulReader .defaults nulWork "/p" 0 (.start () (.started "/p" 0))).through
        fun _ => nulProject :=
    analyze_through parseModule nul_reader_image .defaults nulWork "/p" 0
      (.start () (.started "/p" 0))
  rw [analyzed, through]
  decide +kernel

theorem refusing_nothing {State : Type} (host : Host State) :
    (host.refusing fun _ => none) = host := by
  have kept : ∀ answer, refused none answer = answer := by
    intro answer
    cases answer <;> rfl
  unfold Host.refusing
  simp only [kept]

/-- The hypotheses hold of a project with such a reference, whose run is aborted for it. -/
theorem content_aborts_by_nul_reference_here :
    nulProject.root.cleanNames = true ∧ validate .defaults = .ok .defaults ∧
      ∃ path answer, nul ∈ path.toList ∧ NulReference parseModule nulProject .defaults "/p" path ∧
        Request.reading path answer ∈
          requestsOf ((treeHost parseModule).refusing fun _ => none) .defaults "/p" 0 nulProject := by
  have clean : nulProject.root.cleanNames = true := by decide +kernel
  refine ⟨clean, validate_defaults, ?_⟩
  have told := content_aborts_only_by_nul_reference parseModule clean (fun _ => none)
    validate_defaults "/p" 0
  apply told.1.mp
  rw [refusing_nothing]
  exact nul_project_aborted

/-- The content of files can abort a run. -/
theorem content_can_abort :
    ¬ ∀ (tree : FileTree) (options : Options) (config : Config) (root : String) (generation : Nat),
      tree.root.cleanNames = true → validate options = .ok config →
        (run (treeHost parseModule) options root generation tree).result.status ≠ .aborted := by
  intro never
  have clean : nulProject.root.cleanNames = true := by decide +kernel
  exact never nulProject .defaults .defaults "/p" 0 clean validate_defaults nul_project_aborted

end SelectorAudit.Analysis
