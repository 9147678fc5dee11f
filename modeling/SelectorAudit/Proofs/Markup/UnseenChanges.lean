import Mathlib.Data.List.Forall2
import SelectorAudit.Markup.Component
import SelectorAudit.Proofs.Markup.Grammar.Skipping

/-!
# Changes to a tree that no analysis sees

What is found in a tree depends on the kinds and the roles of its nodes, on the children that are
not comments, and on the text of a few kinds of nodes. Where a relation between trees leaves all
this alone, related trees hold the same names and the same components.
-/

namespace SelectorAudit.Markup

set_option autoImplicit false

open Grammar

/-! What is looked up in a tree, as a chain of lookups. -/

theorem entries_eq (n : Node) :
    n.entries = n.significant.filterMap fun property =>
      if property.kind = .pair then
        property.pairKey?.bind fun key => (property.child? .value).map fun value => (key, value)
      else none := by
  unfold Node.entries
  congr
  funext property
  split
  · rename_i kind key value
    rw [if_pos kind, key, value]
    rfl
  · rename_i other
    split
    · rename_i kind
      cases key : property.pairKey? with
      | none => rfl
      | some name =>
          cases value : property.child? .value with
          | none => rfl
          | some content => exact (other name content kind key value).elim
    · rfl

theorem component_object_eq (decorator : Node) :
    decorator.componentObject? = decorator.significant.head?.bind fun call =>
      if call.kind = .call then
        (call.child? .function).bind fun function =>
          (call.child? .arguments).bind fun given =>
            if function.kind == .identifier && function.text == decoratorName.toList then
              given.significant.head?.bind fun first =>
                if first.kind == .object then some first else none
            else none
      else none := by
  unfold Node.componentObject?
  cases decorator.significant with
  | nil => rfl
  | cons call later =>
      rw [List.head?_cons, Option.bind_some]
      dsimp only
      split
      · rename_i function given kind called arguments
        rw [if_pos kind, called, arguments, Option.bind_some, Option.bind_some]
        split
        · cases given.significant <;> rfl
        · rfl
      · rename_i other
        split
        · rename_i kind
          cases called : call.child? .function with
          | none => rfl
          | some function =>
              cases arguments : call.child? .arguments with
              | none => rfl
              | some given => exact (other function given kind called arguments).elim
        · rfl

/-! Relations that leave everything alone that is looked at. -/

inductive Interleaved (related : Node → Node → Prop) : List Node → List Node → Prop where
  | nil : Interleaved related [] []
  | cons {child other : Node} {rest others : List Node} (first : related child other)
      (later : Interleaved related rest others) :
      Interleaved related (child :: rest) (other :: others)
  | comment {comment : Node} {rest others : List Node} (leaf : IsComment comment)
      (later : Interleaved related rest others) : Interleaved related rest (comment :: others)

/-- The kinds of nodes whose text is taken as it stands. -/
def Kind.isSpelled (kind : Kind) : Bool :=
  kind == .string || kind == .identifier || kind == .propertyIdentifier ||
    kind == .privateIdentifier

def Node.isNaming (n : Node) : Bool :=
  namingAttributes.contains (String.ofList n.text)

structure Unseen (related : Node → Node → Prop) : Prop where
  kind_eq {n changed : Node} : related n changed → changed.kind = n.kind
  role_eq {n changed : Node} : related n changed → changed.role = n.role
  children {n changed : Node} : related n changed →
    Interleaved related n.children changed.children
  text_eq {n changed : Node} : related n changed → n.kind.isSpelled = true → changed.text = n.text
  fragments_eq {n changed : Node} : related n changed → n.kind = .templateString →
    changed.fragments = n.fragments
  naming_eq {n changed : Node} : related n changed → n.kind = .jsxAttribute →
    changed.significant.head?.map Node.isNaming = n.significant.head?.map Node.isNaming

namespace Interleaved

variable {related : Node → Node → Prop} {nodes others : List Node}

theorem of_forall (all : List.Forall₂ related nodes others) : Interleaved related nodes others := by
  induction all with
  | nil => exact .nil
  | cons first _ ih => exact .cons first ih

theorem filter (interleaved : Interleaved related nodes others) (test : Node → Bool)
    (fails : ∀ comment, IsComment comment → test comment = false)
    (blind : ∀ child other, related child other → test other = test child) :
    List.Forall₂ related (nodes.filter test) (others.filter test) := by
  induction interleaved with
  | nil => exact .nil
  | @cons child other rest others first later ih =>
      rw [List.filter_cons, List.filter_cons, blind child other first]
      split
      · exact .cons first ih
      · exact ih
  | @comment comment rest others leaf later ih =>
      rw [List.filter_cons_of_neg (by rw [fails comment leaf]; decide)]
      exact ih

theorem significant {n changed : Node}
    (interleaved : Interleaved related n.children changed.children)
    (kinds : ∀ {child other : Node}, related child other → other.kind = child.kind) :
    List.Forall₂ related n.significant changed.significant := by
  apply interleaved.filter
  · intro comment leaf
    rw [leaf.1]
    rfl
  · intro child other inner
    rw [kinds inner]

end Interleaved

theorem relate_bind {α β : Type} {related : α → α → Prop} {results : β → β → Prop}
    {first second : Option α} (values : Option.Rel related first second) {step other : α → Option β}
    (steps : ∀ one two, related one two → Option.Rel results (step one) (other two)) :
    Option.Rel results (first.bind step) (second.bind other) := by
  cases values with
  | none => exact .none
  | some value => exact steps _ _ value

theorem relate_head {α : Type} {related : α → α → Prop} {first second : List α}
    (all : List.Forall₂ related first second) : Option.Rel related first.head? second.head? := by
  cases all with
  | nil => exact .none
  | cons value _ => exact .some value

theorem map_related {α β : Type} {related : α → α → Prop} {first second : Option α}
    (values : Option.Rel related first second) {found : α → β}
    (same : ∀ {one two : α}, related one two → found two = found one) :
    second.map found = first.map found := by
  cases values with
  | none => rfl
  | some value => exact congrArg some (same value)

theorem flat_map_related {α β : Type} {related : α → α → Prop} {first second : List α}
    (all : List.Forall₂ related first second) {found : α → List β}
    (same : ∀ one ∈ first, ∀ two, related one two → found two = found one) :
    second.flatMap found = first.flatMap found := by
  induction all with
  | nil => rfl
  | cons value _ ih =>
      obtain ⟨here, later⟩ := List.forall_mem_cons.mp same
      rw [List.flatMap_cons, List.flatMap_cons, here _ value, ih later]

section

variable {related : Node → Node → Prop} (unseen : Unseen related) {n changed : Node}
  (change : related n changed)

include unseen change

theorem unseen_significant : List.Forall₂ related n.significant changed.significant :=
  (unseen.children change).significant unseen.kind_eq

theorem unseen_decorators :
    List.Forall₂ related n.decoratorChildren changed.decoratorChildren := by
  apply (unseen.children change).filter
  · intro comment leaf
    rw [leaf.1]
    rfl
  · intro child other inner
    rw [unseen.kind_eq inner]

theorem unseen_child (role : Role) :
    Option.Rel related (n.child? role) (changed.child? role) := by
  rw [Node.child?, Node.child?, ← List.head?_filter, ← List.head?_filter]
  apply relate_head
  apply (unseen.children change).filter
  · intro comment leaf
    rw [leaf.2.1]
    rfl
  · intro child other inner
    rw [unseen.role_eq inner]

theorem unseen_string (kind : n.kind = .string) : changed.stringValue = n.stringValue := by
  have same := unseen.text_eq change (by rw [kind]; rfl)
  rw [Node.stringValue, Node.stringValue, same]

/-! Names. -/

theorem unseen_key_names : objectKeyNames changed = objectKeyNames n := by
  apply flat_map_related (unseen_significant unseen change)
  intro property _ other inner
  have keys := unseen_child unseen inner .key
  rw [unseen.kind_eq inner]
  generalize property.child? .key = before, other.child? .key = after at keys
  cases keys with
  | none => rfl
  | @some key changedKey same =>
      have names :
          (if changedKey.kind == .string then Text.staticTokens changedKey.stringValue else []) =
            if key.kind == .string then Text.staticTokens key.stringValue else [] := by
        rw [unseen.kind_eq same]
        by_cases string : key.kind = .string
        · rw [unseen_string unseen same string]
        · simp [string]
      generalize property.kind = kind
      cases kind with
      | pair => exact names
      | _ => rfl

theorem unseen_own_names : changed.ownNames = n.ownNames := by
  unfold Node.ownNames
  rw [unseen.kind_eq change]
  split
  · next kind => rw [unseen_string unseen change kind]
  · next kind => rw [unseen.fragments_eq change kind]
  · have properties := unseen_child unseen change .property
    generalize n.child? .property = before, changed.child? .property = after at properties
    cases properties with
    | none => rfl
    | @some property _ same =>
        dsimp only
        rw [unseen.kind_eq same]
        split
        · next identifier =>
            have spelled : property.kind.isSpelled = true := by
              rw [Bool.or_eq_true, beq_iff_eq, beq_iff_eq] at identifier
              rcases identifier with kind | kind <;> rw [kind] <;> rfl
            rw [Node.plainName, Node.plainName, unseen.text_eq same spelled]
        · rfl
  · have indices := unseen_child unseen change .index
    generalize n.child? .index = before, changed.child? .index = after at indices
    cases indices with
    | none => rfl
    | @some index _ same =>
        dsimp only
        rw [unseen.kind_eq same]
        by_cases string : index.kind = .string
        · rw [unseen_string unseen same string]
        · simp [string]
  · exact unseen_key_names unseen change
  · rfl

theorem unseen_operands : List.Forall₂ related n.operands changed.operands := by
  have either (role : Role) :
      List.Forall₂ related (n.child? role).toList (changed.child? role).toList := by
    have children := unseen_child unseen change role
    generalize n.child? role = before, changed.child? role = after at children
    cases children with
    | none => exact .nil
    | some same => exact .cons same .nil
  unfold Node.operands
  rw [unseen.kind_eq change]
  split
  · have arguments := unseen_child unseen change .arguments
    generalize n.child? .arguments = before, changed.child? .arguments = after at arguments
    cases arguments with
    | none => exact .nil
    | some same =>
        dsimp only
        rw [unseen.kind_eq same]
        split
        · exact .cons same .nil
        · exact unseen_significant unseen same
  · exact unseen_significant unseen change
  · exact unseen_significant unseen change
  · split
    · exact List.rel_append (either .left) (either .right)
    · exact .nil
  · exact List.rel_append (either .consequence) (either .alternative)
  · exact .nil

end

theorem class_names_eq (n : Node) :
    classNames n = n.ownNames ++ n.operands.flatMap classNames := by
  rw [classNames]
  simp

theorem unseen_class_names {related : Node → Node → Prop} (unseen : Unseen related) (n : Node)
    {changed : Node} (change : related n changed) : classNames changed = classNames n := by
  have operands : changed.operands.flatMap classNames = n.operands.flatMap classNames := by
    apply flat_map_related (unseen_operands unseen change)
    intro operand member other inner
    exact unseen_class_names unseen operand inner
  rw [class_names_eq, class_names_eq n, unseen_own_names unseen change, operands]
termination_by n.count
decreasing_by exact Node.count_lt_of_mem_operands member

section

variable {related : Node → Node → Prop} (unseen : Unseen related) {n changed : Node}
  (change : related n changed)

include unseen change

theorem unseen_attribute_names (kind : n.kind = .jsxAttribute) :
    attributeNames changed = attributeNames n := by
  have children := unseen_significant unseen change
  have naming := unseen.naming_eq change kind
  unfold attributeNames
  generalize n.significant = before, changed.significant = after at children naming
  cases children with
  | nil => rfl
  | cons first rest =>
      cases rest with
      | nil => rfl
      | @cons value other _ _ second _ =>
          have same := Option.some.inj naming
          unfold Node.isNaming at same
          dsimp only
          rw [same, unseen.kind_eq second]
          split
          · split
            · next kind => rw [unseen_string unseen second kind]
            · have inner := unseen_significant unseen second
              generalize value.significant = before, other.significant = after at inner
              cases inner with
              | nil => rfl
              | cons first _ => exact unseen_class_names unseen _ first
            · rfl
          · rfl

/-! Components. -/

theorem unseen_literal : changed.literalText? = n.literalText? := by
  unfold Node.literalText?
  rw [unseen.kind_eq change]
  split
  · next kind => rw [unseen_string unseen change kind]
  · next kind => rw [unseen.fragments_eq change kind]
  · rfl

theorem unseen_key : changed.pairKey? = n.pairKey? := by
  have keys := unseen_child unseen change .key
  unfold Node.pairKey?
  generalize n.child? .key = before, changed.child? .key = after at keys
  cases keys with
  | none => rfl
  | some key =>
      dsimp only
      rw [unseen.kind_eq key]
      split
      · next kind => rw [unseen.text_eq key (by rw [kind]; rfl)]
      · next kind => rw [unseen_string unseen key kind]
      · rfl

theorem unseen_items : changed.stringItems = n.stringItems := by
  have items := unseen_significant unseen change
  unfold Node.stringItems
  generalize n.significant = before, changed.significant = after at items
  induction items with
  | nil => rfl
  | cons first _ ih =>
      rw [List.filter_cons, List.filter_cons, unseen.kind_eq first]
      split
      · next string =>
          rw [List.map_cons, List.map_cons, ih, unseen_string unseen first (beq_iff_eq.mp string)]
      · exact ih

end

def EntryRelated (related : Node → Node → Prop) (entry changed : String × Node) : Prop :=
  changed.1 = entry.1 ∧ related entry.2 changed.2

section

variable {related : Node → Node → Prop} (unseen : Unseen related)

include unseen

theorem unseen_with_entry (component : Component) {entry changed : String × Node}
    (change : EntryRelated related entry changed) :
    component.withEntry changed = component.withEntry entry := by
  obtain ⟨key, value⟩ := change
  unfold Component.withEntry
  rw [key, unseen_literal unseen value, unseen.kind_eq value, unseen_items unseen value]
  by_cases string : entry.2.kind = .string
  · rw [unseen_string unseen value string]
  · simp only [beq_eq_false_iff_ne.mpr string, Bool.false_eq_true, if_false]

theorem unseen_entries {n changed : Node} (change : related n changed) :
    List.Forall₂ (EntryRelated related) n.entries changed.entries := by
  rw [entries_eq, entries_eq]
  refine List.rel_filterMap (fun property other inner => ?_) (unseen_significant unseen change)
  have values := unseen_child unseen inner .value
  rw [unseen.kind_eq inner, unseen_key unseen inner]
  generalize property.child? .value = before, other.child? .value = after at values
  split
  · cases property.pairKey? with
    | none => exact .none
    | some key =>
        cases values with
        | none => exact .none
        | some value => exact .some ⟨rfl, value⟩
  · exact .none

theorem unseen_component {n changed : Node} (change : related n changed) (file : String) :
    componentOf file changed = componentOf file n := by
  unfold componentOf
  have entries := unseen_entries unseen change
  generalize n.entries = before, changed.entries = after at entries
  generalize Component.blank file = component
  induction entries generalizing component with
  | nil => rfl
  | cons first _ ih =>
      rw [List.foldl_cons, List.foldl_cons, unseen_with_entry unseen component first, ih]

theorem unseen_object {n changed : Node} (change : related n changed) :
    Option.Rel related n.componentObject? changed.componentObject? := by
  rw [component_object_eq, component_object_eq]
  refine relate_bind (relate_head (unseen_significant unseen change)) fun call other inner => ?_
  rw [unseen.kind_eq inner]
  split
  · refine relate_bind (unseen_child unseen inner .function) fun function other named => ?_
    refine relate_bind (unseen_child unseen inner .arguments) fun given others inner => ?_
    have called : (other.kind == .identifier && other.text == decoratorName.toList) =
        (function.kind == .identifier && function.text == decoratorName.toList) := by
      rw [unseen.kind_eq named]
      by_cases identifier : function.kind = .identifier
      · rw [unseen.text_eq named (by rw [identifier]; rfl)]
      · rw [beq_eq_false_iff_ne.mpr identifier, Bool.false_and, Bool.false_and]
    rw [called]
    split
    · refine relate_bind (relate_head (unseen_significant unseen inner)) fun first other inner => ?_
      rw [unseen.kind_eq inner]
      split
      · exact .some inner
      · exact .none
    · exact .none
  · exact .none

end

/-! Visits. -/

/-- The names in a visited attribute. -/
def Visit.names (visit : Visit) : List String :=
  if visit.node.kind == .jsxAttribute then attributeNames visit.node else []

/-- The components that the decorators of a visited class describe. -/
def Visit.components (file : String) (visit : Visit) : List Component :=
  if isClassKind visit.node.kind then
    (visit.decorators.filterMap Node.componentObject?).map (componentOf file)
  else []

theorem tree_names_eq (root : Node) : treeNames root = root.visits.flatMap Visit.names := by
  unfold treeNames Node.walk
  induction root.visits with
  | nil => rfl
  | cons visit rest ih =>
      rw [List.map_cons, List.filter_cons, List.flatMap_cons, ← ih, Visit.names]
      split
      · rw [List.flatMap_cons]
      · rfl

theorem tree_components_eq (file : String) (root : Node) :
    treeComponents file root =
      (root.visits.flatMap (Visit.components file)).filter Component.hasTemplate := by
  unfold treeComponents componentObjects
  generalize root.visits = visits
  congr 1
  induction visits with
  | nil => rfl
  | cons visit rest ih =>
      rw [List.flatMap_cons, ← ih, Visit.components, List.filter_cons]
      split
      · rw [List.flatMap_cons, List.map_append]
      · rfl

structure VisitRelated (related : Node → Node → Prop) (visit changed : Visit) : Prop where
  node : related visit.node changed.node
  parent : Option.Rel related visit.parent changed.parent

inductive StackRelated (related : Node → Node → Prop) : List Visit → List Visit → Prop where
  | nil : StackRelated related [] []
  | visit {visit changed : Visit} {rest others : List Visit}
      (first : VisitRelated related visit changed) (later : StackRelated related rest others) :
      StackRelated related (visit :: rest) (changed :: others)
  | comment (parent : Option Node) {comment : Node} (leaf : IsComment comment)
      {rest others : List Visit} (later : StackRelated related rest others) :
      StackRelated related rest (⟨parent, comment⟩ :: others)

section

variable {related : Node → Node → Prop} (unseen : Unseen related)

include unseen

theorem unseen_visit_names {visit changed : Visit} (change : VisitRelated related visit changed) :
    changed.names = visit.names := by
  unfold Visit.names
  rw [unseen.kind_eq change.node]
  split
  · next kind => exact unseen_attribute_names unseen change.node (beq_iff_eq.mp kind)
  · rfl

theorem unseen_visit_components (file : String) {visit changed : Visit}
    (change : VisitRelated related visit changed) :
    changed.components file = visit.components file := by
  have decorators : List.Forall₂ related visit.decorators changed.decorators := by
    refine List.rel_append (unseen_decorators unseen change.node) ?_
    have parents := change.parent
    generalize visit.parent = before, changed.parent = after at parents
    cases parents with
    | none => exact .nil
    | some parent =>
        dsimp only
        rw [unseen.kind_eq parent]
        split
        · exact unseen_decorators unseen parent
        · exact .nil
  have objects := List.rel_filterMap (fun _ _ inner => unseen_object unseen inner) decorators
  unfold Visit.components
  rw [unseen.kind_eq change.node]
  split
  · generalize visit.decorators.filterMap _ = before, changed.decorators.filterMap _ = after
      at objects
    induction objects with
    | nil => rfl
    | cons first _ ih =>
        rw [List.map_cons, List.map_cons, unseen_component unseen first, ih]
  · rfl

theorem stacked_children {n changed : Node} (change : related n changed)
    {rest others : List Visit} (later : StackRelated related rest others) :
    StackRelated related (n.children.map (Visit.mk (some n)) ++ rest)
      (changed.children.map (Visit.mk (some changed)) ++ others) := by
  have children := unseen.children change
  generalize n.children = before, changed.children = after at children
  induction children with
  | nil => exact later
  | cons first _ ih => exact .visit ⟨first, .some change⟩ ih
  | comment leaf _ ih => exact .comment _ leaf ih

/-- What visits give, where comments give nothing and visits to related nodes give the same. -/
theorem unseen_visits {α : Type} {found : Visit → List α}
    (plain : ∀ parent comment, IsComment comment → found ⟨parent, comment⟩ = [])
    (same : ∀ {visit changed : Visit}, VisitRelated related visit changed →
      found changed = found visit)
    {stack changed : List Visit} (change : StackRelated related stack changed) :
    (visitStack changed).flatMap found = (visitStack stack).flatMap found := by
  fun_induction visitStack changed generalizing stack with
  | case1 =>
      cases change
      rw [visitStack]
  | case2 visit rest ih =>
      cases change with
      | visit first later =>
          rw [visitStack, List.flatMap_cons, List.flatMap_cons, same first,
            ih (stacked_children unseen first.node later)]
      | comment parent leaf later =>
          rw [List.flatMap_cons, plain parent _ leaf]
          rw [leaf.2.2] at ih ⊢
          exact ih later

theorem unseen_tree_names {n changed : Node} (change : related n changed) :
    treeNames changed = treeNames n := by
  have visit : VisitRelated related ⟨none, n⟩ ⟨none, changed⟩ := ⟨change, .none⟩
  rw [tree_names_eq, tree_names_eq]
  apply unseen_visits unseen _ (unseen_visit_names unseen) (.visit visit .nil)
  intro parent comment leaf
  rw [Visit.names, leaf.1]
  rfl

theorem unseen_tree_components {n changed : Node} (change : related n changed) (file : String) :
    treeComponents file changed = treeComponents file n := by
  have visit : VisitRelated related ⟨none, n⟩ ⟨none, changed⟩ := ⟨change, .none⟩
  have plain : ∀ parent comment, IsComment comment →
      Visit.components file ⟨parent, comment⟩ = [] := by
    intro parent comment leaf
    rw [Visit.components, leaf.1]
    rfl
  rw [tree_components_eq, tree_components_eq, Node.visits, Node.visits,
    unseen_visits unseen plain (unseen_visit_components unseen file) (.visit visit .nil)]

end

end SelectorAudit.Markup
