import SelectorAudit.Text.Blank

/-!
# Syntax trees

The tree of a component module. A node knows its kind, the role it plays in its parent, where it
starts, and the text it covers; punctuation is not part of the tree, comments are. Kinds that no
analysis looks at are grouped broadly.
-/

namespace SelectorAudit.Markup

set_option autoImplicit false

inductive Kind where
  | program
  | comment
  | broken
  | statement
  | exportStatement
  | classDeclaration
  | abstractClassDeclaration
  | classExpression
  | classBody
  | classMember
  | decorator
  | function
  | parameters
  | pattern
  | typeExpression
  | identifier
  | propertyIdentifier
  | privateIdentifier
  | computedName
  | number
  | regex
  | string
  | templateString
  | templateSubstitution
  | array
  | object
  | pair
  | method
  | spread
  | member
  | subscript
  | call
  | arguments
  | instantiation
  | construction
  | parenthesized
  | sequence
  | assignment
  | ternary
  | binary (operator : String)
  | unary
  | assertion
  | metaProperty
  | jsxElement
  | jsxTag
  | jsxAttribute
  | jsxNamespaceName
  | jsxExpression
  | jsxText
  deriving DecidableEq, Repr

/-- The part that a node plays in its parent. -/
inductive Role where
  | function
  | arguments
  | property
  | index
  | key
  | value
  | left
  | right
  | consequence
  | alternative
  deriving DecidableEq, Repr

inductive Node where
  | node (kind : Kind) (role : Option Role) (start : Nat) (text : List Char) (children : List Node)
  deriving Repr

namespace Node

def kind : Node → Kind
  | node kind _ _ _ _ => kind

def role : Node → Option Role
  | node _ role _ _ _ => role

/-- The offset of the first character. -/
def start : Node → Nat
  | node _ _ start _ _ => start

/-- The text that the node covers. -/
def text : Node → List Char
  | node _ _ _ text _ => text

def children : Node → List Node
  | node _ _ _ _ children => children

/-- The offset behind the last character. -/
def stop (n : Node) : Nat :=
  n.start + n.text.length

def inRole (n : Node) (role : Role) : Node :=
  node n.kind (some role) n.start n.text n.children

/-- The children that are not comments. -/
def significant (n : Node) : List Node :=
  n.children.filter fun child => child.kind != .comment

def child? (n : Node) (role : Role) : Option Node :=
  n.children.find? fun child => child.role == some role

mutual

/-- The number of nodes of a tree. -/
def count : Node → Nat
  | node _ _ _ _ children => countAll children + 1

def countAll : List Node → Nat
  | [] => 0
  | child :: rest => child.count + countAll rest

end

theorem count_eq (n : Node) : n.count = countAll n.children + 1 := by
  cases n
  rw [count, children]

theorem count_le_countAll {child : Node} {nodes : List Node} (member : child ∈ nodes) :
    child.count ≤ countAll nodes := by
  induction nodes with
  | nil => cases member
  | cons first rest ih =>
      rw [countAll]
      rcases List.mem_cons.mp member with same | later
      · subst same
        omega
      · have := ih later
        omega

theorem count_lt_of_mem_children {child n : Node} (member : child ∈ n.children) :
    child.count < n.count := by
  have := count_le_countAll member
  rw [count_eq n]
  omega

theorem mem_children_of_mem_significant {child n : Node} (member : child ∈ n.significant) :
    child ∈ n.children :=
  (List.mem_filter.mp member).1

theorem mem_children_of_child? {child n : Node} {role : Role} (found : n.child? role = some child) :
    child ∈ n.children :=
  List.mem_of_find?_eq_some found

theorem countAll_append (first second : List Node) :
    countAll (first ++ second) = countAll first + countAll second := by
  induction first with
  | nil => simp [countAll]
  | cons node rest ih =>
      simp only [List.cons_append, countAll, ih]
      omega

end Node

/-- A node on the way through a tree, with the parent it was reached from. -/
structure Visit where
  parent : Option Node
  node : Node

/-- The visits still to be made from a stack, the top of which comes first. A node's children are
put on the stack in its place. -/
def visitStack (stack : List Visit) : List Visit :=
  match stack with
  | [] => []
  | visit :: rest =>
      visit :: visitStack (visit.node.children.map (Visit.mk (some visit.node)) ++ rest)
termination_by Node.countAll (stack.map Visit.node)
decreasing_by
  have unwrap : (visit.node.children.map (Visit.mk (some visit.node))).map Visit.node =
      visit.node.children := by
    rw [List.map_map]
    exact List.map_id _
  rw [List.map_append, unwrap, Node.countAll_append, List.map_cons, Node.countAll, Node.count_eq]
  omega

/-- The visits to all nodes of a tree, parents before children and in source order. -/
def Node.visits (root : Node) : List Visit :=
  visitStack [⟨none, root⟩]

/-- The nodes of a tree of a wanted kind, parents before children and in source order. -/
def Node.walk (wanted : Kind → Bool) (root : Node) : List Node :=
  (root.visits.map Visit.node).filter fun n => wanted n.kind

def slice (text : List Char) (first last : Nat) : List Char :=
  (text.take last).drop first

def Node.stringValue (n : Node) : List Char :=
  if 2 ≤ n.text.length then slice n.text 1 (n.text.length - 1) else []

def fragmentsFrom (text : List Char) (base last offset : Nat) : List Node → List (List Char)
  | [] => [slice text offset last]
  | child :: rest =>
      if child.kind == .templateSubstitution then
        slice text offset (child.start - base) ::
          fragmentsFrom text base last (child.stop - base) rest
      else fragmentsFrom text base last offset rest

/-- The static text of a template string, cut at each substitution. -/
def Node.fragments (n : Node) : List (List Char) :=
  let closed := n.text.getLast? == some Text.backtick && 1 < n.text.length
  let last := if closed then n.text.length - 1 else n.text.length
  fragmentsFrom n.text n.start last 1 n.children

def Node.hasSubstitutions (n : Node) : Bool :=
  n.children.any fun child => child.kind == .templateSubstitution

/-- A syntax tree, and whether the grammar derives the whole text. -/
structure ModuleTree where
  root : Node
  intact : Bool

/-- A parser of component modules; it is told whether angle brackets start elements. -/
abbrev ModuleParser := Bool → List Char → ModuleTree

end SelectorAudit.Markup
