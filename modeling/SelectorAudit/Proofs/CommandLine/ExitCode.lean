import SelectorAudit.CommandLine.Run
import SelectorAudit.Proofs.Analysis.AllOrNothing
import SelectorAudit.Proofs.Analysis.SessionHistory
import SelectorAudit.Proofs.Json.Nesting
import SelectorAudit.Proofs.Storage.FlatDirectory
import SelectorAudit.Proofs.Storage.SearchDepth

/-!
# The exit code of an analysis

The options of an analysis come from a file and are overridden by the command line before they are
checked. Whatever the file holds, the exit code tells how the analysis ended, with two exceptions:
patterns cannot be added to what is no list, and values or directories that are nested too deep use
up the stack. There the program fails, and its exit code is the one for unused selectors.
-/

namespace SelectorAudit.CommandLine

set_option autoImplicit false

open Analysis Report Settings Storage
open Json (Value)

/-! The options in the file. -/

inductive HoldsText (place : Place) (request : AnalyzeRequest) : List Char → Prop where
  | decoded {path : String} {content : Text.Utf8.Bytes} {text : List Char}
      (given : request.configFile = some path)
      (opened : place.tree.open? (Path.join place.workingDirectory (Path.tidy path)) = .ok content)
      (decoded : Text.Utf8.strict content = .ok text) :
      HoldsText place request (Text.normalNewlines text)

/-- The file of a request, if one is named, holds a JSON object with these entries. -/
inductive LoadsObject (place : Place) (request : AnalyzeRequest) :
    List (String × Value) → Prop where
  | unnamed (none : request.configFile = none) : LoadsObject place request []
  | named {text : List Char} {entries : List (String × Value)}
      (held : HoldsText place request text)
      (read : Json.read place.spare text = .ok (.object entries)) :
      LoadsObject place request entries

/-- The file of a request is nested too deep for the stack that it is read on. -/
def Overflows (place : Place) (request : AnalyzeRequest) (overflow : Json.Overflow) : Prop :=
  ∃ text, HoldsText place request text ∧
    Json.read place.spare text = .error (.exhausted overflow)

section

variable {place : Place} {request : AnalyzeRequest}

theorem loaded_of_text {text : List Char} (held : HoldsText place request text) :
    loadedOptions place request = Options.ofText place.spare text := by
  obtain ⟨given, opened, decoded⟩ := held
  unfold loadedOptions
  rw [given]
  dsimp only
  rw [opened]
  simp only [Options.ofBytes, decoded]

theorem loaded_of_object {entries : List (String × Value)}
    (held : LoadsObject place request entries) :
    loadedOptions place request = .ok (Options.ofEntries entries) := by
  cases held with
  | unnamed none =>
      unfold loadedOptions
      rw [none]
      rfl
  | named held read =>
      rw [loaded_of_text held]
      simp only [Options.ofText, read]

theorem loaded_of_overflow {overflow : Json.Overflow} (held : Overflows place request overflow) :
    loadedOptions place request = .error (.exhausted overflow) := by
  obtain ⟨text, held, read⟩ := held
  rw [loaded_of_text held]
  simp only [Options.ofText, read]

/-- A file that is nested too deep opens more levels than there are to spare. -/
theorem overflow_opens {overflow : Json.Overflow} (held : Overflows place request overflow) :
    ∃ text, HoldsText place request text ∧ place.spare < Json.openings text := by
  obtain ⟨text, held, read⟩ := held
  exact ⟨text, held, Json.exhausted_opens read⟩

/-- Whatever the stack has to spare, lists in lists use it up. -/
theorem nested_lists_overflow {depth : Nat}
    (held : HoldsText place request (List.replicate depth '['))
    (deep : place.spare + Json.reportDepth < depth) : Overflows place request .list :=
  ⟨_, held, Json.nested_lists_exhaust deep⟩

/-- What comes of the file of a request: options, a stack that is used up, or a fault. -/
theorem loaded_cases (place : Place) (request : AnalyzeRequest) :
    (∃ entries, LoadsObject place request entries) ∨
    (∃ overflow, Overflows place request overflow) ∨
    ∃ fault, loadedOptions place request = .error fault ∧
      ∀ overflow, fault ≠ .exhausted overflow := by
  cases named : request.configFile with
  | none => exact Or.inl ⟨[], .unnamed named⟩
  | some path =>
      cases opened : place.tree.open? (Path.join place.workingDirectory (Path.tidy path)) with
      | error fault =>
          refine Or.inr (Or.inr ⟨.system fault (Path.tidy path), ?_, by rintro _ ⟨⟩⟩)
          simp only [loadedOptions, named, opened]
      | ok content =>
          cases decoded : Text.Utf8.strict content with
          | error fault =>
              refine Or.inr (Or.inr ⟨.encoding fault, ?_, by rintro _ ⟨⟩⟩)
              simp only [loadedOptions, named, opened, Options.ofBytes, decoded]
          | ok text =>
              have held : HoldsText place request _ := .decoded named opened decoded
              rw [loaded_of_text held]
              unfold Options.ofText
              split
              · rename_i overflow read
                exact Or.inr (Or.inl ⟨overflow, _, held, read⟩)
              · exact Or.inr (Or.inr ⟨_, rfl, by rintro _ ⟨⟩⟩)
              · rename_i entries read
                exact Or.inl ⟨entries, .named held read⟩
              · exact Or.inr (Or.inr ⟨_, rfl, by rintro _ ⟨⟩⟩)

end

/-! The options of a request. -/

/-- Patterns are to be added to what is no list. -/
def Unmergeable (request : AnalyzeRequest) (loaded : Options) : Prop :=
  request.excludes ≠ [] ∧ ∀ patterns, loaded .excludePatterns ≠ .list patterns

/-- What is given on the command line takes the place of what is loaded; patterns are added. -/
structure Merged (request : AnalyzeRequest) (loaded options : Options) : Prop where
  includeFileTypes : options .includeFileTypes =
    if request.includeTypes = [] then loaded .includeFileTypes else textList request.includeTypes
  componentFileTypes : options .componentFileTypes =
    if request.componentTypes = [] then loaded .componentFileTypes
    else textList request.componentTypes
  minFilesForAnalysis : options .minFilesForAnalysis =
    (request.minFiles.map Value.integer).getD (loaded .minFilesForAnalysis)
  excludePatterns : request.excludes = [] ∧ options .excludePatterns = loaded .excludePatterns ∨
    ∃ patterns, loaded .excludePatterns = .list patterns ∧
      options .excludePatterns = .list (patterns ++ request.excludes.map Value.text)
  others : ∀ name, name ∉ [OptionName.includeFileTypes, .componentFileTypes, .minFilesForAnalysis,
    .excludePatterns] → options name = loaded name

def overridden (request : AnalyzeRequest) (loaded : Options) : Options :=
  let typed := withExtensions
    (withExtensions loaded .includeFileTypes request.includeTypes)
    .componentFileTypes request.componentTypes
  match request.minFiles with
  | some count => typed.set .minFilesForAnalysis (.integer count)
  | none => typed

theorem merged_options_eq (request : AnalyzeRequest) (loaded : Options) :
    mergedOptions request loaded = withExcludes (overridden request loaded) request.excludes := rfl

theorem with_extensions_get (options : Options) (name other : OptionName)
    (extensions : List String) :
    withExtensions options name extensions other =
      if other = name ∧ extensions ≠ [] then textList extensions else options other := by
  unfold withExtensions
  cases extensions with
  | nil => simp
  | cons first rest => simp [Options.set]

theorem overridden_get (request : AnalyzeRequest) (loaded : Options) (name : OptionName) :
    overridden request loaded name =
      match name with
      | .includeFileTypes =>
          if request.includeTypes = [] then loaded .includeFileTypes
          else textList request.includeTypes
      | .componentFileTypes =>
          if request.componentTypes = [] then loaded .componentFileTypes
          else textList request.componentTypes
      | .minFilesForAnalysis =>
          (request.minFiles.map Value.integer).getD (loaded .minFilesForAnalysis)
      | name => loaded name := by
  unfold overridden
  cases request.minFiles <;> cases name <;>
    simp [Options.set, with_extensions_get]

theorem merged_of_overridden {request : AnalyzeRequest} {loaded options : Options}
    (alike : ∀ name, name ≠ .excludePatterns → options name = overridden request loaded name)
    (patterns : request.excludes = [] ∧ options .excludePatterns = loaded .excludePatterns ∨
      ∃ patterns, loaded .excludePatterns = .list patterns ∧
        options .excludePatterns = .list (patterns ++ request.excludes.map Value.text)) :
    Merged request loaded options := by
  refine ⟨?_, ?_, ?_, patterns, ?_⟩
  · rw [alike _ (by decide), overridden_get]
  · rw [alike _ (by decide), overridden_get]
  · rw [alike _ (by decide), overridden_get]
  · intro name other
    simp only [List.mem_cons, List.not_mem_nil, or_false, not_or] at other
    rw [alike name other.2.2.2, overridden_get]
    cases name <;> simp_all

theorem merged_cases (request : AnalyzeRequest) (loaded : Options) :
    Unmergeable request loaded ∧ mergedOptions request loaded =
        .error ⟨"TypeError", additionMessage (loaded .excludePatterns)⟩ ∨
    ¬ Unmergeable request loaded ∧
      ∃ options, mergedOptions request loaded = .ok options ∧ Merged request loaded options := by
  have patterns : overridden request loaded .excludePatterns = loaded .excludePatterns :=
    overridden_get request loaded .excludePatterns
  rw [merged_options_eq]
  unfold withExcludes
  by_cases nothing : request.excludes = []
  · right
    refine ⟨fun unmergeable => unmergeable.1 nothing, overridden request loaded, ?_, ?_⟩
    · simp [nothing]
    · exact merged_of_overridden (fun _ _ => rfl) (Or.inl ⟨nothing, patterns⟩)
  · rw [if_neg (by simpa using nothing), patterns]
    cases value : loaded .excludePatterns with
    | list present =>
        right
        refine ⟨fun unmergeable => unmergeable.2 present value, _, rfl, ?_⟩
        apply merged_of_overridden
        · intro name other
          simp [Options.set, other]
        · exact Or.inr ⟨present, value, by simp [Options.set]⟩
    | _ => exact Or.inl ⟨⟨nothing, by simp [value]⟩, rfl⟩

theorem merged_unique {request : AnalyzeRequest} {loaded first second : Options}
    (one : Merged request loaded first) (other : Merged request loaded second) :
    first = second := by
  have patterns : first .excludePatterns = second .excludePatterns := by
    rcases one.excludePatterns, other.excludePatterns with
      ⟨⟨none, same⟩ | ⟨patterns, held, same⟩, ⟨none', same'⟩ | ⟨patterns', held', same'⟩⟩
    · rw [same, same']
    · rw [same, same', held', none]
      simp
    · rw [same, same', held, none']
      simp
    · rw [same, same', Value.list.inj (held.symm.trans held')]
  funext name
  by_cases special : name ∈ [OptionName.includeFileTypes, .componentFileTypes,
      .minFilesForAnalysis, .excludePatterns]
  · simp only [List.mem_cons, List.not_mem_nil, or_false] at special
    rcases special with rfl | rfl | rfl | rfl
    · rw [one.includeFileTypes, other.includeFileTypes]
    · rw [one.componentFileTypes, other.componentFileTypes]
    · rw [one.minFilesForAnalysis, other.minFilesForAnalysis]
    · exact patterns
  · rw [one.others name special, other.others name special]

/-! The result of the analysis. -/

structure Verdict (options : Options) (result : Result) (ending : Ending) : Prop where
  invalid : (∃ fault, validate options = .error fault) → ending = .exit exitAborted
  aborted_iff : ending = .exit exitAborted ↔ result.status = .aborted
  unused_iff : ending = .exit exitUnused ↔ result.status = .completed ∧ result.unused ≠ []
  otherwise : result.status ≠ .aborted → ¬ (result.status = .completed ∧ result.unused ≠ []) →
    ending = .exit exitClean

theorem logged_image {State : Type} (host : Host State) :
    Host.Image Prod.fst host.logged host := by
  constructor
  · intro state root extensions patterns
    rfl
  · intro state path limit
    rfl
  · rfl

theorem session_result (options : Options) (root : String) (tree : FileTree) :
    let outcome := (Session.new options).run Sink.empty (treeHost Markup.parseModule)
      Interruptions.none root tree
    let result := (Analysis.run (treeHost Markup.parseModule) options root 1 tree).result
    outcome.result.status = result.status ∧ outcome.result.unused = result.unused := by
  intro outcome result
  obtain ⟨_, _, given⟩ := session_run_spec (Session.new options) Sink.empty
    (treeHost Markup.parseModule) Interruptions.none root tree
  have same :
      result = ((Session.new options).loggedRun (treeHost Markup.parseModule) root tree).result :=
    congrArg Outcome.result (run_through (logged_image _) options root 1 (tree, []))
  rw [same, show outcome.result = _ from given]
  exact ⟨rfl, rfl⟩

theorem result_code_aborted_iff (result : Result) :
    resultCode result = exitAborted ↔ result.status = .aborted := by
  unfold resultCode Result.aborted
  by_cases status : result.status = .aborted
  · simp [status]
  · cases result.unused <;> simp [status, exitAborted, exitUnused, exitClean]

theorem result_code_unused_iff {result : Result}
    (bare : result.status ≠ .completed → result.unused = []) :
    resultCode result = exitUnused ↔ result.status = .completed ∧ result.unused ≠ [] := by
  unfold resultCode Result.aborted
  by_cases status : result.status = .completed
  · cases result.unused <;> simp [status, exitUnused, exitClean]
  · by_cases aborted : result.status = .aborted
    · simp [aborted, exitAborted, exitUnused]
    · simp [status, aborted, bare status, exitUnused, exitClean]

theorem result_code_cases (result : Result) : resultCode result = exitAborted ∨
    resultCode result = exitUnused ∨ resultCode result = exitClean := by
  unfold resultCode
  cases result.aborted <;> cases result.unused <;> simp

theorem result_code_verdict {options : Options} {result : Result}
    (invalid : (∃ fault, validate options = .error fault) → result.status = .aborted)
    (bare : result.status ≠ .completed → result.unused = []) :
    Verdict options result (.exit (resultCode result)) := by
  have aborted := result_code_aborted_iff result
  have unused := result_code_unused_iff bare
  constructor
  · intro wrong
    rw [aborted.mpr (invalid wrong)]
  · rw [Ending.exit.injEq, aborted]
  · rw [Ending.exit.injEq, unused]
  · intro sound other
    have clean : resultCode result = exitClean := by
      simpa [aborted, unused, sound, other] using result_code_cases result
    rw [clean]

/-- The result of the run on the disk that a command line names. -/
def resultOf (place : Place) (request : AnalyzeRequest) (options : Options) : Result :=
  (Analysis.run (treeHost Markup.parseModule) options (place.absolute request.root) 1
    place.tree).result

theorem analyze_with_verdict (place : Place) (verbose : Bool) (request : AnalyzeRequest)
    (options : Options) :
    Verdict options (resultOf place request options)
      (analyzeWith place verbose request options).ending := by
  obtain ⟨status, unused⟩ := session_result options (place.absolute request.root) place.tree
  have code : (analyzeWith place verbose request options).ending =
      .exit (resultCode (resultOf place request options)) := by
    unfold analyzeWith resultCode Result.aborted resultOf
    dsimp only
    rw [status, unused]
  rw [code]
  apply result_code_verdict
  · intro wrong
    exact (run_aborted_iff (treeHost Markup.parseModule) options _ 1 place.tree).mpr (Or.inl wrong)
  · exact (run_pending _ 1 (treeHost Markup.parseModule) options place.tree).bare

/-! The command. -/

/-- The options are valid, and the search for files goes deeper than the stack. -/
def SearchesTooDeep (place : Place) (request : AnalyzeRequest) (options : Options) : Prop :=
  ∃ config, validate options = .ok config ∧ place.spare + searchLead <
    searchDepth place.tree (place.absolute request.root) config.excludePatterns

theorem search_overflows_iff (place : Place) (request : AnalyzeRequest) (options : Options) :
    searchOverflows place request options = true ↔ SearchesTooDeep place request options := by
  unfold searchOverflows SearchesTooDeep
  cases validate options with
  | error fault => simp
  | ok config => simp

/-- A search that goes too deep meets directories that are nested deeper than the stack. -/
theorem directories_of_search {place : Place} {request : AnalyzeRequest} {options : Options}
    (deep : SearchesTooDeep place request options) :
    ∃ entries, place.tree.at? (place.tree.resolve linkLimit []
        (stepsOf (place.absolute request.root))) = some (.directory entries) ∧
      place.spare + searchLead < levelsAmong entries := by
  obtain ⟨config, _, deep⟩ := deep
  exact nested_of_search_depth deep

/-- What the end of the command tells. -/
structure ExitTells (place : Place) (request : AnalyzeRequest) (ending : Ending) : Prop where
  unloaded : (¬ ∃ entries, LoadsObject place request entries) →
    (¬ ∃ overflow, Overflows place request overflow) → ending = .exit exitAborted
  overflowed : ∀ overflow, Overflows place request overflow → ending = .crash (.ofOverflow overflow)
  unmergeable : ∀ entries, LoadsObject place request entries →
    Unmergeable request (Options.ofEntries entries) → ending =
      .crash ⟨"TypeError", additionMessage (Options.ofEntries entries .excludePatterns)⟩
  merged : ∀ entries, LoadsObject place request entries →
    ¬ Unmergeable request (Options.ofEntries entries) →
    ∃ options, Merged request (Options.ofEntries entries) options ∧
      (SearchesTooDeep place request options → ending = .crash (.ofOverflow .frame)) ∧
      (¬ SearchesTooDeep place request options →
        Verdict options (resultOf place request options) ending)
  crash_iff : (∃ failure, ending = .crash failure) ↔
    (∃ overflow, Overflows place request overflow) ∨
    ∃ entries, LoadsObject place request entries ∧
      (Unmergeable request (Options.ofEntries entries) ∨
        ∃ options, Merged request (Options.ofEntries entries) options ∧
          SearchesTooDeep place request options)

theorem verdict_exits {options : Options} {result : Result} {ending : Ending}
    (verdict : Verdict options result ending) : ∃ code, ending = .exit code := by
  by_cases aborted : result.status = .aborted
  · exact ⟨_, verdict.aborted_iff.mpr aborted⟩
  · by_cases unused : result.status = .completed ∧ result.unused ≠ []
    · exact ⟨_, verdict.unused_iff.mpr unused⟩
    · exact ⟨_, verdict.otherwise aborted unused⟩

section

variable {place : Place} {words : List String} {verbose : Bool} {request : AnalyzeRequest}
  {entries : List (String × Value)}

theorem run_asked (asked : invocation place words = .perform verbose (.analyze request)) :
    run place words = analyzeTranscript place verbose request := by
  unfold run
  rw [asked]

theorem unloaded_exits (nothing : ¬ ∃ entries, LoadsObject place request entries)
    (roomy : ¬ ∃ overflow, Overflows place request overflow) :
    (analyzeTranscript place verbose request).ending = .exit exitAborted := by
  rcases loaded_cases place request with loads | overflows | ⟨fault, loading, caught⟩
  · exact absurd loads nothing
  · exact absurd overflows roomy
  · unfold analyzeTranscript
    rw [loading]
    cases fault with
    | exhausted overflow => exact absurd rfl (caught overflow)
    | system | encoding | json | noObject => rfl

theorem overflow_crashes {overflow : Json.Overflow} (held : Overflows place request overflow) :
    (analyzeTranscript place verbose request).ending = .crash (.ofOverflow overflow) := by
  unfold analyzeTranscript
  rw [loaded_of_overflow held]
  rfl

theorem unmergeable_crashes (held : LoadsObject place request entries)
    (unmergeable : Unmergeable request (Options.ofEntries entries)) :
    (analyzeTranscript place verbose request).ending =
      .crash ⟨"TypeError", additionMessage (Options.ofEntries entries .excludePatterns)⟩ := by
  unfold analyzeTranscript
  rw [loaded_of_object held]
  rcases merged_cases request (Options.ofEntries entries) with
    ⟨_, failed⟩ | ⟨mergeable, _⟩
  · dsimp only
    rw [failed]
    rfl
  · exact absurd unmergeable mergeable

theorem mergeable_tells (held : LoadsObject place request entries)
    (mergeable : ¬ Unmergeable request (Options.ofEntries entries)) :
    ∃ options, Merged request (Options.ofEntries entries) options ∧
      (SearchesTooDeep place request options →
        (analyzeTranscript place verbose request).ending = .crash (.ofOverflow .frame)) ∧
      (¬ SearchesTooDeep place request options →
        Verdict options (resultOf place request options)
          (analyzeTranscript place verbose request).ending) := by
  unfold analyzeTranscript
  rw [loaded_of_object held]
  rcases merged_cases request (Options.ofEntries entries) with
    ⟨unmergeable, _⟩ | ⟨_, options, given, merged⟩
  · exact absurd unmergeable mergeable
  · dsimp only
    rw [given]
    refine ⟨options, merged, fun deep => ?_, fun shallow => ?_⟩
    · dsimp only
      rw [if_pos ((search_overflows_iff place request options).mpr deep)]
      rfl
    · dsimp only
      rw [if_neg (mt (search_overflows_iff place request options).mp shallow)]
      exact analyze_with_verdict place verbose request options

/-- Whatever the file of a request holds and whatever overrides it, the command ends by an exit code
that tells the outcome, unless the file or the directories are nested too deep or patterns are to be
added to what is no list. -/
theorem analyze_exit_code
    (asked : invocation place words = .perform verbose (.analyze request)) :
    ExitTells place request (run place words).ending := by
  rw [run_asked asked]
  refine ⟨unloaded_exits, fun _ => overflow_crashes, fun _ => unmergeable_crashes,
    fun _ => mergeable_tells, ⟨?_, ?_⟩⟩
  · -- Every other end is an exit code, so only these ways are left.
    rintro ⟨failure, crashed⟩
    by_cases overflows : ∃ overflow, Overflows place request overflow
    · exact Or.inl overflows
    by_cases loads : ∃ entries, LoadsObject place request entries
    · obtain ⟨entries, held⟩ := loads
      refine Or.inr ⟨entries, held, ?_⟩
      apply Classical.byContradiction
      intro sound
      obtain ⟨mergeable, shallow⟩ := not_or.mp sound
      obtain ⟨options, merged, _, verdict⟩ := mergeable_tells held mergeable
      obtain ⟨code, ended⟩ := verdict_exits (verdict fun deep => shallow ⟨options, merged, deep⟩)
      rw [ended] at crashed
      cases crashed
    · rw [unloaded_exits loads overflows] at crashed
      cases crashed
  · rintro (⟨overflow, held⟩ | ⟨entries, held, unmergeable | ⟨options, merged, deep⟩⟩)
    · exact ⟨_, overflow_crashes held⟩
    · exact ⟨_, unmergeable_crashes held unmergeable⟩
    · by_cases mergeable : Unmergeable request (Options.ofEntries entries)
      · exact ⟨_, unmergeable_crashes held mergeable⟩
      · obtain ⟨options', merged', crashes, _⟩ := mergeable_tells held mergeable
        obtain rfl := merged_unique merged merged'
        exact ⟨_, crashes deep⟩

end

/-! A request that crashes. -/

def scalarFile : Text.Utf8.Bytes :=
  "\x7b\"excludePatterns\": \"x\"\x7d".toList.map fun c => c.toNat.toUInt8

def scalarWords : List String := ["analyze", "/p", "--config", "/p/c.json", "--exclude", "y"]

def scalarRequest : AnalyzeRequest where
  root := "/p"
  configFile := some "/p/c.json"
  includeTypes := []
  componentTypes := []
  excludes := ["y"]
  minFiles := none
  json := false
  showErrors := false

def scalarEntries : List (String × Entry) := [("c.json", .file scalarFile)]

def scalarPlace : Place := ⟨⟨[("p", .directory scalarEntries)]⟩, "/", 984⟩

theorem scalar_root_found : scalarPlace.find "/p" = .ok (.directory scalarEntries) := by
  have spelled : Path.join "/" "/p" = filePath [] "p" := by decide +kernel
  unfold Place.find
  rw [if_neg (by decide), show scalarPlace.workingDirectory = "/" from rfl, spelled]
  exact find_solid rfl (by rintro _ ⟨⟩) (by decide) (by decide)

theorem scalar_file_found :
    scalarPlace.tree.find (filePath ["p"] "c.json") = .ok (.file scalarFile) :=
  find_solid rfl (by rintro _ ⟨⟩) (by decide) (by decide)

theorem parsed_of_parts {Id : Type} {outcome : Except UsageFault (Parsed Id)}
    {given : List (Id × String)} {positional : List String}
    (parts : outcome.toOption.map (fun parsed => (parsed.given, parsed.positional)) =
      some (given, positional)) : outcome = .ok ⟨given, positional⟩ := by
  cases outcome with
  | error fault => cases parts
  | ok parsed =>
      cases parts
      rfl

theorem scalar_asked :
    invocation scalarPlace scalarWords = .perform false (.analyze scalarRequest) := by
  have spelled : Path.join "/" "/p/c.json" = filePath ["p"] "c.json" := by decide +kernel
  have whole : parseWords programOptions false scalarWords = .ok ⟨[], scalarWords⟩ :=
    parsed_of_parts (by decide +kernel)
  have options : parseWords analyzeOptions true
      ["/p", "--config", "/p/c.json", "--exclude", "y"] =
      .ok ⟨[(.config, "/p/c.json"), (.exclude, "y")], ["/p"]⟩ :=
    parsed_of_parts (by decide +kernel)
  have file : scalarPlace.find "/p/c.json" = .ok (.file scalarFile) := by
    unfold Place.find
    rw [if_neg (by decide), show scalarPlace.workingDirectory = "/" from rfl, spelled]
    exact scalar_file_found
  unfold invocation
  rw [whole]
  simp only [scalarWords, informText?, commandInvocation, List.find?_nil, List.isEmpty_cons,
    Bool.false_eq_true, if_false, options]
  simp [invocationOf, analyzeRequest, checkAnalyzeOption, checkFile, checkDirectory, soleArgument,
    Parsed.has, Parsed.value?, Parsed.values, file, scalar_root_found, Entry.isDirectory, bind,
    Except.bind, pure, Except.pure, scalarRequest]

def readsScalar : Except Json.Fault Value → Bool
  | .ok (.object [(key, .text _)]) => key = OptionName.excludePatterns.hostWord
  | _ => false

theorem scalar_loaded : ∃ entries pattern, LoadsObject scalarPlace scalarRequest entries ∧
    Options.ofEntries entries .excludePatterns = .text pattern := by
  have spelled : Path.join "/" (Path.tidy "/p/c.json") = filePath ["p"] "c.json" := by
    decide +kernel
  have opened : scalarPlace.tree.open? (Path.join "/" (Path.tidy "/p/c.json")) =
      .ok scalarFile := by
    rw [spelled, FileTree.open?, scalar_file_found]
    rfl
  have read : ((Text.Utf8.strict scalarFile).toOption.map fun text =>
      readsScalar (Json.read scalarPlace.spare (Text.normalNewlines text))) = some true := by
    decide +kernel
  cases decoded : Text.Utf8.strict scalarFile with
  | error fault =>
      rw [decoded] at read
      cases read
  | ok text =>
      rw [decoded] at read
      have scalar : readsScalar (Json.read scalarPlace.spare (Text.normalNewlines text)) = true :=
        Option.some.inj read
      unfold readsScalar at scalar
      split at scalar
      · rename_i key pattern spelt
        refine ⟨_, pattern, .named (.decoded rfl opened decoded) spelt, ?_⟩
        rw [of_decide_eq_true scalar]
        rfl
      · cases scalar

theorem scalar_unmergeable {loaded : Options} {pattern : String}
    (text : loaded .excludePatterns = .text pattern) : Unmergeable scalarRequest loaded := by
  refine ⟨by decide, ?_⟩
  rw [text]
  rintro patterns ⟨⟩

/-- The request asks for patterns to be added to what is no list, and the command crashes. -/
theorem analyze_exit_code_scalar_patterns :
    invocation scalarPlace scalarWords = .perform false (.analyze scalarRequest) ∧
      (run scalarPlace scalarWords).ending =
        .crash ⟨"TypeError", "can only concatenate str (not \x22tuple\x22) to str"⟩ := by
  obtain ⟨entries, pattern, held, text⟩ := scalar_loaded
  refine ⟨scalar_asked, ?_⟩
  rw [(analyze_exit_code scalar_asked).unmergeable entries held (scalar_unmergeable text), text]
  rfl

/-- Not every request is answered by an exit code. -/
theorem analyze_can_crash :
    ¬ ∀ (place : Place) (words : List String) (verbose : Bool) (request : AnalyzeRequest),
      invocation place words = .perform verbose (.analyze request) →
        ∃ code, (run place words).ending = .exit code := by
  intro always
  obtain ⟨code, ended⟩ := always scalarPlace scalarWords false scalarRequest scalar_asked
  obtain ⟨entries, pattern, held, text⟩ := scalar_loaded
  rw [run_asked scalar_asked, unmergeable_crashes held (scalar_unmergeable text)] at ended
  cases ended

end SelectorAudit.CommandLine
