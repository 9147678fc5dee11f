import Mathlib.Logic.Relation
import SelectorAudit.Markup.Program
import SelectorAudit.Proofs.Markup.UnseenChanges
import SelectorAudit.Proofs.Markup.WovenTemplates

/-!
# Comments in a tree

Comments are put into a tree after it is built, each into the innermost node around it. They make no
difference to what is found: no name is taken from another attribute value, a class keeps its
decorators, a decorator the object it is called with, and an object its keys and values. Nor does it
make a difference that a text with comments in it is longer, so that nodes start elsewhere and the
text of the nodes around the comments is another one.
-/

namespace SelectorAudit.Markup

set_option autoImplicit false

open Grammar

/-! Comments among children. -/

/-- A tree that has comments in addition, any number of them among the children of any node. -/
inductive Commented : Node → Node → Prop where
  | node {kind : Kind} {role : Option Role} {start : Nat} {text : List Char}
      {children others : List Node} (below : Interleaved Commented children others) :
      Commented (.node kind role start text children) (.node kind role start text others)

mutual

theorem commented_same : ∀ n : Node, Commented n n
  | .node _ _ _ _ children => .node (interleaved_same children)

theorem interleaved_same : ∀ nodes : List Node, Interleaved Commented nodes nodes
  | [] => .nil
  | first :: rest => .cons (commented_same first) (interleaved_same rest)

end

mutual

theorem with_comment_commented {comment : Node} (leaf : IsComment comment) :
    ∀ n : Node, Commented n (Node.withComment comment n)
  | .node kind role start text children => by
      rw [Node.withComment]
      exact .node (comment_among_interleaved leaf children)

theorem comment_among_interleaved {comment : Node} (leaf : IsComment comment) :
    ∀ children : List Node, Interleaved Commented children (commentAmong comment children)
  | [] => .comment leaf .nil
  | child :: rest => by
      rw [commentAmong]
      split
      · exact .comment leaf (interleaved_same (child :: rest))
      · split
        · exact .cons (with_comment_commented leaf child) (interleaved_same rest)
        · exact .cons (commented_same child) (comment_among_interleaved leaf rest)

end

namespace Commented

variable {n changed : Node}

theorem kind_eq (commented : Commented n changed) : changed.kind = n.kind := by
  cases commented
  rfl

theorem role_eq (commented : Commented n changed) : changed.role = n.role := by
  cases commented
  rfl

theorem start_eq (commented : Commented n changed) : changed.start = n.start := by
  cases commented
  rfl

theorem text_eq (commented : Commented n changed) : changed.text = n.text := by
  cases commented
  rfl

theorem stop_eq (commented : Commented n changed) : changed.stop = n.stop := by
  rw [Node.stop, Node.stop, commented.start_eq, commented.text_eq]

theorem children (commented : Commented n changed) :
    Interleaved Commented n.children changed.children := by
  cases commented with
  | node below => exact below

end Commented

/-- A template is cut at the same places. -/
theorem fragments_commented {nodes others : List Node}
    (commented : Interleaved Commented nodes others) (text : List Char) (base last offset : Nat) :
    fragmentsFrom text base last offset others = fragmentsFrom text base last offset nodes := by
  induction commented generalizing offset with
  | nil => rfl
  | cons first _ ih => simp only [fragmentsFrom, first.kind_eq, first.start_eq, first.stop_eq, ih]
  | comment leaf _ ih =>
      rw [fragmentsFrom, if_neg (by rw [leaf.1]; decide)]
      exact ih offset

theorem commented_unseen : Unseen Commented where
  kind_eq := Commented.kind_eq
  role_eq := Commented.role_eq
  children := Commented.children
  text_eq commented _ := commented.text_eq
  fragments_eq commented _ := by
    unfold Node.fragments
    rw [commented.text_eq, commented.start_eq]
    exact fragments_commented commented.children _ _ _ _
  naming_eq commented _ := by
    apply map_related (relate_head (commented.children.significant Commented.kind_eq))
    intro named other same
    rw [Node.isNaming, Node.isNaming, same.text_eq]

theorem with_comments_commented {comments : List Node}
    (leaves : ∀ comment ∈ comments, IsComment comment) (root : Node) :
    Relation.ReflTransGen Commented root
      (comments.foldr (fun comment root => Node.withComment comment root) root) := by
  induction comments with
  | nil => exact .refl
  | cons comment later ih =>
      obtain ⟨leaf, others⟩ := List.forall_mem_cons.mp leaves
      exact (ih others).tail (with_comment_commented leaf _)

theorem commented_tree_components {root changed : Node}
    (commented : Relation.ReflTransGen Commented root changed) (file : String) :
    treeComponents file changed = treeComponents file root := by
  induction commented with
  | refl => rfl
  | tail _ step ih => rw [unseen_tree_components commented_unseen step, ih]

/-! Room for comments. -/

def SameName (n changed : Node) : Prop :=
  Option.Rel (fun named other => other.text = named.text ∨ ':' ∈ named.text ∧ ':' ∈ other.text)
    n.significant.head? changed.significant.head?

/-- The same tree for a text in which nodes stand at other places and have room for comments: words
and strings stay as they are, and templates have the same fragments around their substitutions. -/
inductive Relaid : Node → Node → Prop where
  | same (n : Node) : Relaid n n
  | node {kind : Kind} {role : Option Role} {start newStart : Nat} {text newText : List Char}
      {children others : List Node} (below : List.Forall₂ Relaid children others)
      (spelled : kind.isSpelled = true → newText = text)
      (template : kind = .templateString → ∃ fragments,
        (Node.node kind role start text children).IsWoven fragments ∧
          (Node.node kind role newStart newText others).IsWoven fragments)
      (named : kind = .jsxAttribute → SameName (.node kind role start text children)
        (.node kind role newStart newText others)) :
      Relaid (.node kind role start text children) (.node kind role newStart newText others)

theorem not_naming_of_colon {n : Node} (colon : ':' ∈ n.text) : n.isNaming = false := by
  rw [Node.isNaming, Bool.eq_false_iff]
  intro naming
  have plain : ∀ name ∈ namingAttributes, ':' ∉ name.toList := by decide
  apply plain _ (List.contains_iff_mem.mp naming)
  rw [String.toList_ofList]
  exact colon

theorem relaid_unseen : Unseen Relaid where
  kind_eq relaid := by cases relaid <;> rfl
  role_eq relaid := by cases relaid <;> rfl
  children relaid := by
    cases relaid with
    | same n => exact .of_forall (List.forall₂_same.mpr fun child _ => .same child)
    | node below => exact .of_forall below
  text_eq relaid kind := by
    cases relaid with
    | same n => rfl
    | node _ spelled => exact spelled kind
  fragments_eq relaid kind := by
    cases relaid with
    | same n => rfl
    | node _ _ template =>
        obtain ⟨fragments, before, after⟩ := template kind
        rw [fragments_of_woven before, fragments_of_woven after]
  naming_eq relaid kind := by
    cases relaid with
    | same n => rfl
    | node _ _ _ named =>
        apply map_related (named kind)
        rintro first second (same | ⟨before, after⟩)
        · rw [Node.isNaming, Node.isNaming, same]
        · rw [not_naming_of_colon before, not_naming_of_colon after]

/-- Comments make no difference to the names and the components that are found in a tree. They may
stand among the children of any nodes, and the tree may be laid out anew to make room for them. -/
theorem comments_leave_findings {root commented relaid : Node} (inserted : Commented root commented)
    (laidOut : Relaid commented relaid) :
    treeNames relaid = treeNames root ∧
      ∀ file, treeComponents file relaid = treeComponents file root := by
  constructor
  · rw [unseen_tree_names relaid_unseen laidOut, unseen_tree_names commented_unseen inserted]
  · intro file
    rw [unseen_tree_components relaid_unseen laidOut,
      unseen_tree_components commented_unseen inserted]

/-- An attribute whose value is a template with a substitution around some nodes. -/
def templateAttribute (inner : String) (parts : List Node) : Node :=
  let substitution := "$\x7b".toList ++ inner.toList ++ "\x7d".toList
  let template := Text.backtick :: ("a ".toList ++ (substitution ++ [Text.backtick]))
  let value := "\x7b".toList ++ template ++ "\x7d".toList
  .node .jsxAttribute none 0 ("className=".toList ++ value)
    [.node .propertyIdentifier none 0 "className".toList [],
      .node .jsxExpression none 10 value
        [.node .templateString none 11 template
          [.node .templateSubstitution none 14 substitution parts]]]

theorem template_attribute_woven (inner : String) (parts : List Node) :
    (Node.node .templateString none 11
      (Text.backtick :: ("a ".toList ++
        (("$\x7b".toList ++ inner.toList ++ "\x7d".toList) ++ [Text.backtick])))
      [.node .templateSubstitution none 14 ("$\x7b".toList ++ inner.toList ++ "\x7d".toList)
        parts]).IsWoven ["a ".toList, []] :=
  ⟨_, rfl, .substitution rfl rfl (.last _ [])⟩

/-- A comment before the name in the substitution, for which the template gets longer. -/
theorem comments_leave_findings_template :
    Commented (templateAttribute "x" [.node .identifier none 16 ['x'] []])
      (templateAttribute "x" [.node .comment none 16 [] [], .node .identifier none 16 ['x'] []]) ∧
    Relaid
      (templateAttribute "x" [.node .comment none 16 [] [], .node .identifier none 16 ['x'] []])
      (templateAttribute "/**/x"
        [.node .comment none 16 "/**/".toList [], .node .identifier none 20 ['x'] []]) ∧
    treeNames (templateAttribute "/**/x"
      [.node .comment none 16 "/**/".toList [], .node .identifier none 20 ['x'] []]) = ["a"] := by
  have inserted : Commented (templateAttribute "x" [.node .identifier none 16 ['x'] []])
      (templateAttribute "x"
        [.node .comment none 16 [] [], .node .identifier none 16 ['x'] []]) := by
    apply Commented.node (.cons (commented_same _) (.cons _ .nil))
    apply Commented.node (.cons _ .nil)
    apply Commented.node (.cons _ .nil)
    exact .node (.comment ⟨rfl, rfl, rfl⟩ (interleaved_same _))
  have laidOut : Relaid
      (templateAttribute "x" [.node .comment none 16 [] [], .node .identifier none 16 ['x'] []])
      (templateAttribute "/**/x"
        [.node .comment none 16 "/**/".toList [], .node .identifier none 20 ['x'] []]) := by
    unfold templateAttribute
    refine .node (.cons (.same _) (.cons ?_ .nil)) nofun nofun fun _ => .some (.inl rfl)
    refine .node (.cons ?_ .nil) nofun nofun nofun
    refine .node (.cons ?_ .nil) nofun
      (fun _ => ⟨_, template_attribute_woven _ _, template_attribute_woven _ _⟩) nofun
    refine .node (.cons ?_ (.cons ?_ .nil)) nofun nofun nofun
    · exact .node .nil nofun nofun nofun
    · exact .node .nil (fun _ => rfl) nofun nofun
  refine ⟨inserted, laidOut, ?_⟩
  rw [(comments_leave_findings inserted laidOut).1]
  decide +kernel

end SelectorAudit.Markup
