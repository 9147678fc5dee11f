import SelectorAudit.Proofs.Markup.ComponentSpelling
import SelectorAudit.Proofs.Markup.Grammar.Statements

/-!
# The signs of a component

A module that shows no sign of a component is skipped before it is parsed. The signs are those of
the usual spellings: a component that is found in a module is written there, and if any component of
the module is in a usual spelling, nothing is lost. A module whose components are all spelled
otherwise, with a comment in front of the parenthesis and the key in quotation marks, say, is skipped
although its components would be found.
-/

namespace SelectorAudit.Markup

set_option autoImplicit false

open Text Storage Grammar

/-! What is found in a tree that is written in a text. -/

theorem visits_written {source : List Char} {root : Node} (written : Written source root) :
    ∀ visit ∈ root.visits,
      Written source visit.node ∧ ∀ parent ∈ visit.parent, Written source parent := by
  have stacked (stack : List Visit)
      (all : ∀ visit ∈ stack,
        Written source visit.node ∧ ∀ parent ∈ visit.parent, Written source parent) :
      ∀ visit ∈ visitStack stack,
        Written source visit.node ∧ ∀ parent ∈ visit.parent, Written source parent := by
    fun_induction visitStack stack with
    | case1 => exact List.forall_mem_nil _
    | case2 visit rest ih =>
        obtain ⟨first, later⟩ := List.forall_mem_cons.mp all
        refine List.forall_mem_cons.mpr ⟨first, ih (List.forall_mem_append.mpr ⟨?_, later⟩)⟩
        intro below member
        obtain ⟨child, among, rfl⟩ := List.mem_map.mp member
        exact ⟨first.1.child among, fun parent same => Option.some.inj same ▸ first.1⟩
  refine stacked [⟨none, root⟩] (List.forall_mem_singleton.mpr ⟨written, ?_⟩)
  exact fun parent same => absurd same (Option.not_mem_none parent)

theorem object_written {source : List Char} {root object : Node} (written : Written source root)
    (found : object ∈ componentObjects root) : DecoratorWritten source object := by
  obtain ⟨visit, among, member⟩ := List.mem_flatMap.mp found
  obtain ⟨decorator, carried, called⟩ := List.mem_filterMap.mp member
  obtain ⟨self, parent⟩ := visits_written written visit (List.mem_filter.mp among).1
  have owned {owner : Node} (owns : Written source owner)
      (child : decorator ∈ owner.decoratorChildren) : DecoratorWritten source object := by
    obtain ⟨inside, kind⟩ := List.mem_filter.mp child
    exact (owns.child inside).decorator_object (beq_iff_eq.mp kind) called
  rcases List.mem_append.mp carried with own | outer
  · exact owned self own
  · split at outer
    · rename_i exporting same
      split at outer
      · exact owned (parent exporting same) outer
      · cases outer
    · cases outer

theorem template_entry {file : String} {object : Node}
    (templated : (componentOf file object).hasTemplate = true) :
    ∃ entry ∈ object.entries, entry.1 = "template" ∨ entry.1 = "templateUrl" := by
  have folded (entries : List (String × Node)) (component : Component)
      (templated : (entries.foldl Component.withEntry component).hasTemplate = true) :
      component.hasTemplate = true ∨
        ∃ entry ∈ entries, entry.1 = "template" ∨ entry.1 = "templateUrl" := by
    induction entries generalizing component with
    | nil => exact .inl templated
    | cons entry later ih =>
        rcases ih _ templated with already | ⟨other, member, named⟩
        · unfold Component.withEntry at already
          split at already
          · exact .inr ⟨entry, List.mem_cons_self, .inl ‹_›⟩
          · exact .inr ⟨entry, List.mem_cons_self, .inr ‹_›⟩
          · split at already <;> exact .inl already
          · split at already <;> exact .inl already
          · exact .inl already
        · exact .inr ⟨other, List.mem_cons_of_mem _ member, named⟩
  exact (folded object.entries (Component.blank file) templated).resolve_left
    (by simp [Component.blank, Component.hasTemplate])

theorem component_spelled {source : List Char} {root : Node} (written : Written source root)
    {file : String} {component : Component} (found : component ∈ treeComponents file root) :
    ∃ spelling : Spelling, spelling.text <:+: source := by
  obtain ⟨described, templated⟩ := List.mem_filter.mp found
  obtain ⟨object, member, rfl⟩ := List.mem_map.mp described
  obtain ⟨beforeName, beforeArguments, behind, nameApart, argumentsApart, placed, keys⟩ :=
    object_written written member
  obtain ⟨entry, among, forTemplate⟩ := template_entry templated
  obtain ⟨quote, beforeColon, quoted, colonApart, beforeKey, after, same⟩ := keys entry among
  refine ⟨{ beforeName, beforeArguments, beforeKey, key := entry.1, quote, beforeColon, nameApart,
            argumentsApart, forTemplate, quoted, colonApart }, ?_⟩
  refine List.IsInfix.trans ⟨[], after, ?_⟩ placed.isInfix
  rw [Spelling.text, Spelling.opening, Spelling.label, ← same]
  simp

/-! Modules. -/

/-- A tree is written in a text, but for comments that are put into it. -/
def TreeWritten (source : List Char) (root : Node) : Prop :=
  ∃ tree, Written source tree ∧ Relation.ReflTransGen Commented tree root

theorem parse_module_written (elements : Bool) (source : List Char) :
    TreeWritten source (parseModule elements source).root := by
  have read (dialect : Dialect) := rules_up_to_read dialect (depthFor source)
  unfold parseModule
  split
  · rename_i root strict
    have := read ⟨elements, false⟩
    obtain ⟨tree, comments, written, leaves, rfl⟩ := run_parser_written strict
    exact ⟨tree, written, with_comments_commented leaves tree⟩
  · cases salvaged : salvagedTree? elements source with
    | some root =>
        have := read ⟨elements, true⟩
        obtain ⟨tree, comments, written, leaves, rfl⟩ := run_parser_written salvaged
        exact ⟨tree, written, with_comments_commented leaves tree⟩
    | none =>
        exact ⟨.node .program none 0 source [], written_of_silent rfl (List.forall_mem_nil _), .refl⟩

section

variable {parse : ModuleParser} {source : List Char}

theorem found_component_spelled (written : TreeWritten source (parse false source).root)
    {file : String} (found : (findComponents parse source file).components ≠ []) :
    ∃ spelling : Spelling, spelling.text <:+: source := by
  obtain ⟨tree, origin, commented⟩ := written
  obtain ⟨component, member⟩ := List.exists_mem_of_ne_nil _ found
  rw [findComponents, commented_tree_components commented] at member
  exact component_spelled origin member

/-- The names that the components of a module use, whether it shows a sign of one or not. -/
def unscreenedUsage {State : Type} (parse : ModuleParser) (read : Reader State) (limit : Int)
    (state : State) (source : List Char) (file : String) : ComponentUsage State :=
  componentsUsage read limit state (findComponents parse source file).components

/-- Two extractions give the same names, report the same errors and ask the same of the reader. -/
structure ComponentUsage.Agrees {State : Type} (one other : ComponentUsage State) : Prop where
  outcome : one.outcome = other.outcome
  errors : one.errors = other.errors
  state : one.state = other.state

theorem blank_module_empty (written : TreeWritten source (parse false source).root)
    (blank : isAllBlank source = true) (file : String) :
    (findComponents parse source file).components = [] := by
  by_contra found
  obtain ⟨spelling, spelled⟩ := found_component_spelled written found
  have sign : '@' ∈ source := spelled.subset List.mem_cons_self
  exact absurd (List.all_eq_true.mp blank '@' sign) (by decide)

/-- Where a sign is shown or there is nothing to find, screening changes nothing. -/
theorem screening_agrees {State : Type} (read : Reader State) (limit : Int) (state : State)
    {file : String} (written : TreeWritten source (parse false source).root)
    (harmless : (findComponents parse source file).components ≠ [] →
      looksLikeComponentModule source = true) :
    (decoratedUsage parse read limit state source file).Agrees
      (unscreenedUsage parse read limit state source file) := by
  unfold decoratedUsage unscreenedUsage
  split
  · rw [blank_module_empty written ‹_› file]
    exact ⟨rfl, rfl, rfl⟩
  · split
    · rename_i unseen
      rw [Bool.not_eq_true', Bool.eq_false_iff] at unseen
      rw [not_ne_iff.mp (mt harmless unseen)]
      exact ⟨rfl, rfl, rfl⟩
    · exact ⟨rfl, rfl, rfl⟩

/-- Screening hides no component of a module, unless the module holds components and none of them is
in a usual spelling. This holds of any parser whose tree is written in the module. -/
theorem screening_hides_only_unusual_spellings
    (written : TreeWritten source (parse false source).root) (file : String) :
    (((findComponents parse source file).components ≠ [] →
        looksLikeComponentModule source = true) ∧
      ∀ (State : Type) (read : Reader State) (limit : Int) (state : State),
        (decoratedUsage parse read limit state source file).Agrees
          (unscreenedUsage parse read limit state source file)) ∨
    ((findComponents parse source file).components ≠ [] ∧
      (∃ spelling : Spelling, spelling.text <:+: source) ∧
      ∀ spelling : Spelling, spelling.text <:+: source → spelling.usual = false) := by
  by_cases harmless :
      (findComponents parse source file).components ≠ [] → looksLikeComponentModule source = true
  · left
    exact ⟨harmless, fun _ read limit state => screening_agrees read limit state written harmless⟩
  · right
    obtain ⟨found, unseen⟩ := Classical.not_imp.mp harmless
    refine ⟨found, found_component_spelled written found, fun spelling spelled => ?_⟩
    exact Bool.eq_false_iff.mpr (mt (usual_spelling_seen spelled) unseen)

end

/-- A component behind a comment, with its key in quotation marks. -/
def hiddenComponent : List Char :=
  "@Component /* main */ (\x7b\"template\": \"<p class='x'></p>\"\x7d)\nclass A \x7b\x7d\n".toList

/-- The module is skipped, and its component is in no usual spelling. -/
theorem screening_hides_only_unusual_spellings_here :
    TreeWritten hiddenComponent (parseModule false hiddenComponent).root ∧
      ∃ spelling : Spelling, spelling.text <:+: hiddenComponent ∧ spelling.usual = false := by
  have written := parse_module_written false hiddenComponent
  have found : (findComponents parseModule hiddenComponent "a.ts").components ≠ [] := by
    decide +kernel
  have unseen : ¬ looksLikeComponentModule hiddenComponent = true := by decide +kernel
  refine ⟨written, ?_⟩
  rcases screening_hides_only_unusual_spellings written "a.ts" with
    ⟨shown, _⟩ | ⟨_, ⟨spelling, spelled⟩, unusual⟩
  · exact absurd (shown found) unseen
  · exact ⟨spelling, spelled, unusual spelling spelled⟩

/-- A component can be hidden. -/
theorem screening_can_hide_component :
    ¬ ∀ (source : List Char) (file : String),
      (findComponents parseModule source file).components ≠ [] →
        looksLikeComponentModule source = true := by
  intro always
  have shown := always hiddenComponent "src/app.component.ts" (by decide +kernel)
  exact absurd shown (by decide +kernel)

end SelectorAudit.Markup
