import SelectorAudit.Proofs.Storage.WantedFiles
import SelectorAudit.Settings.Config

/-!
# Extensions in discovery and in dialects

A component is found by its extension, and its extension also decides which dialect it is read in.
Both look at the same part of the path and ignore its case. Discovery ignores the case of the
configured extensions too, but the dialects take them literally: a configured extension with a
capital in it finds files that no dialect handles, unless the dialects also list it in lower case.
-/

namespace SelectorAudit.Settings

set_option autoImplicit false

open Storage

theorem lower_extension_file_path {location : Location} {name : String} (named : FileName name) :
    lowerExtension (filePath location name) = lowered (Path.extension name) := by
  rw [lowerExtension, file_path_extension named.whole, lowered, Path.extension,
    String.toList_ofList]

theorem discovered_by_extension {tree : FileTree} (proper : tree.root.WellNamed)
    {root path : String} {extensions patterns : List String}
    (found : path ∈ discover tree root extensions patterns) :
    ∃ entry ∈ extensions, lowered entry = lowerExtension path := by
  obtain ⟨folders, name, rfl, wanted, _⟩ :=
    (mem_discover_iff proper root extensions patterns path).mp found
  obtain ⟨entry, listed, same⟩ := wanted.extension
  have named : FileName name := by
    obtain ⟨last, there, _⟩ := (Option.any_eq_true _ _).mp wanted.present
    exact (well_named_descend proper there).1 name (List.mem_append_right _ List.mem_cons_self)
  exact ⟨entry, listed, by rw [lower_extension_file_path named, same]⟩

theorem source_kind_none_iff (config : Config) (path : String) :
    config.sourceKind path = none ↔
      lowerExtension path ∉ config.jsxFileTypes ∧
        lowerExtension path ∉ config.decoratorFileTypes := by
  unfold Config.sourceKind
  by_cases decorated : lowerExtension path ∈ config.decoratorFileTypes
  · simp [decorated]
  · by_cases element : lowerExtension path ∈ config.jsxFileTypes <;> simp [decorated, element]

/-- A component is left unread only for capitals in the configuration. Every component that is found
is found for an extension that is configured, whatever its case; and where a dialect lists that
extension too, the component has a dialect exactly if one lists it in lower case, as one does if it
is configured in lower case. -/
theorem found_component_read_unless_capitals {tree : FileTree} (proper : tree.root.WellNamed)
    (config : Config) {root path : String}
    (found : path ∈ discover tree root config.componentFileTypes config.excludePatterns) :
    (∃ entry ∈ config.componentFileTypes, lowered entry = lowerExtension path) ∧
      ∀ entry ∈ config.componentFileTypes, lowered entry = lowerExtension path →
        entry ∈ config.jsxFileTypes ∨ entry ∈ config.decoratorFileTypes →
          (config.sourceKind path = none ↔
            lowered entry ∉ config.jsxFileTypes ∧ lowered entry ∉ config.decoratorFileTypes) ∧
          (lowered entry = entry → config.sourceKind path ≠ none) := by
  refine ⟨discovered_by_extension proper found, ?_⟩
  intro entry _ same handled
  have unread : config.sourceKind path = none ↔
      lowered entry ∉ config.jsxFileTypes ∧ lowered entry ∉ config.decoratorFileTypes := by
    rw [source_kind_none_iff, same]
  refine ⟨unread, ?_⟩
  intro small left
  obtain ⟨notJsx, notDecorator⟩ := unread.mp left
  rw [small] at notJsx notDecorator
  exact handled.elim notJsx notDecorator

/-! A project with one component. -/

def oneComponent : FileTree := ⟨[("p", .directory [("App.tsx", .file [])])]⟩

theorem one_component_well_named : oneComponent.root.WellNamed := by
  have entries : (Entry.directory [("App.tsx", .file [])]).WellNamed :=
    .directory (by decide) (by decide) (List.forall_mem_singleton.mpr (.file []))
  exact .directory (by decide) (by decide) (List.forall_mem_singleton.mpr entries)

theorem one_component_found {extensions : List String}
    (wanted : ∃ entry ∈ extensions, lowered entry = lowered (Path.extension "App.tsx")) :
    filePath ["p"] "App.tsx" ∈
      discover oneComponent (filePath [] "p") extensions Config.defaults.excludePatterns := by
  apply (mem_discover_iff one_component_well_named _ _ _ _).mpr
  rw [oneComponent, resolve_folder _ (by decide)]
  refine ⟨[], "App.tsx", rfl, ⟨by decide +kernel, wanted, ?_⟩, ?_⟩
  · rw [← excludes_iff []]
    decide +kernel
  · intro outer before nonempty
    exact absurd (List.prefix_nil.mp before) nonempty

/-- By default, extensions are configured in lower case. -/
theorem found_component_read_by_default :
    oneComponent.root.WellNamed ∧
      filePath ["p"] "App.tsx" ∈ discover oneComponent (filePath [] "p")
        Config.defaults.componentFileTypes Config.defaults.excludePatterns ∧
      Config.defaults.sourceKind (filePath ["p"] "App.tsx") ≠ none := by
  have found : filePath ["p"] "App.tsx" ∈ discover oneComponent (filePath [] "p")
      Config.defaults.componentFileTypes Config.defaults.excludePatterns :=
    one_component_found ⟨".tsx", by decide, by decide +kernel⟩
  have read := (found_component_read_unless_capitals one_component_well_named .defaults found).2
    ".tsx" (by decide) (by decide +kernel) (.inl (by decide))
  exact ⟨one_component_well_named, found, read.2 (by decide +kernel)⟩

def capitalOptions : Options :=
  (Options.defaults.set .componentFileTypes (textList [".TSX"])).set .jsxFileTypes
    (textList [".TSX"])

def capitalConfig : Config :=
  { Config.defaults with componentFileTypes := [".TSX"], jsxFileTypes := [".TSX"] }

/-- A component can be found for an extension of a dialect and have no dialect. -/
theorem found_component_can_be_left_unread :
    ¬ ∀ (tree : FileTree) (options : Options) (config : Config) (root path entry : String),
      tree.root.WellNamed → validate options = .ok config →
        path ∈ discover tree root config.componentFileTypes config.excludePatterns →
        entry ∈ config.componentFileTypes →
        entry ∈ config.jsxFileTypes ∨ entry ∈ config.decoratorFileTypes →
        lowered entry = lowerExtension path → config.sourceKind path ≠ none := by
  intro always
  have accepted : validate capitalOptions = .ok capitalConfig := rfl
  have found : filePath ["p"] "App.tsx" ∈ discover oneComponent (filePath [] "p")
      capitalConfig.componentFileTypes capitalConfig.excludePatterns :=
    one_component_found ⟨".TSX", by decide, by decide +kernel⟩
  exact always oneComponent capitalOptions capitalConfig _ _ ".TSX" one_component_well_named accepted
    found (by decide) (.inl (by decide)) (by decide +kernel) (by decide +kernel)

end SelectorAudit.Settings
