import SelectorAudit.Markup.ClassExpression
import SelectorAudit.Markup.Program

/-!
# The order of a walk

A walk keeps a stack of nodes and replaces the one at its top by its children. The stack is a forest
that is still to be walked, so the nodes come out in the pre-order of the tree: each one at its own
address, parents before children and children from the first to the last. Where the children of
every node stand inside of it and one behind the other, this is the order of the text.
-/

namespace SelectorAudit.Markup

set_option autoImplicit false

mutual

/-- The nodes of a tree, each before those below it, and these one child after the other. -/
def Node.preorder : Node → List Node
  | .node kind role start text children =>
      .node kind role start text children :: preorderAll children

def preorderAll : List Node → List Node
  | [] => []
  | child :: rest => child.preorder ++ preorderAll rest

end

theorem preorder_eq (n : Node) : n.preorder = n :: preorderAll n.children := by
  cases n
  rw [Node.preorder, Node.children]

theorem preorder_all_append (first second : List Node) :
    preorderAll (first ++ second) = preorderAll first ++ preorderAll second := by
  induction first with
  | nil => simp [preorderAll]
  | cons n rest ih => simp [preorderAll, ih]

mutual

theorem preorder_length : ∀ n : Node, n.preorder.length = n.count
  | .node _ _ _ _ children => by
      rw [Node.preorder, Node.count, List.length_cons, preorder_all_length children]

theorem preorder_all_length : ∀ nodes : List Node, (preorderAll nodes).length = Node.countAll nodes
  | [] => rfl
  | n :: rest => by
      rw [preorderAll, Node.countAll, List.length_append, preorder_length n,
        preorder_all_length rest]

end

/-- A stack is visited as the forest of the trees on it, the top of the stack first. -/
theorem visit_stack_preorder (stack : List Visit) :
    (visitStack stack).map Visit.node = preorderAll (stack.map Visit.node) := by
  fun_induction visitStack stack with
  | case1 => rfl
  | case2 visit rest ih =>
      have unwrap : (visit.node.children.map (Visit.mk (some visit.node))).map Visit.node =
          visit.node.children := by
        rw [List.map_map]
        exact List.map_id _
      rw [List.map_cons, ih, List.map_append, unwrap, preorder_all_append, List.map_cons,
        preorderAll, preorder_eq, List.cons_append]

theorem visits_preorder (root : Node) : root.visits.map Visit.node = root.preorder := by
  rw [Node.visits, visit_stack_preorder]
  simp [preorderAll]

theorem walk_preorder (wanted : Kind → Bool) (root : Node) :
    root.walk wanted = root.preorder.filter fun n => wanted n.kind := by
  rw [Node.walk, visits_preorder]

/-! The stack turn by turn. -/

/-- A search under way: a stack of nodes, the top of which comes last, and what has been found. -/
structure Search where
  stack : List Node
  found : List Node

/-- One turn: the node at the top makes way for its children, the last of them first. -/
def Search.turn (wanted : Kind → Bool) (search : Search) : Search :=
  match search.stack.getLast? with
  | none => search
  | some top =>
      { stack := search.stack.dropLast ++ top.children.reverse
        found := if wanted top.kind then search.found ++ [top] else search.found }

theorem turn_concat (wanted : Kind → Bool) (below : List Node) (top : Node) (found : List Node) :
    Search.turn wanted ⟨below ++ [top], found⟩ =
      ⟨below ++ top.children.reverse, found ++ [top].filter fun n => wanted n.kind⟩ := by
  unfold Search.turn
  rw [List.getLast?_concat, List.dropLast_concat]
  cases test : wanted top.kind <;> simp [test]

/-- The nodes that are still to come: the stack is a forest, its top the first tree. -/
def Search.pending (search : Search) : List Node :=
  preorderAll search.stack.reverse

theorem pending_nil_iff (search : Search) : search.pending = [] ↔ search.stack = [] := by
  have turned : search.stack = [] ↔ search.stack.reverse = [] := List.reverse_eq_nil_iff.symm
  rw [Search.pending, turned]
  cases search.stack.reverse with
  | nil => simp [preorderAll]
  | cons top below => simp [preorderAll, preorder_eq]

/-- A turn takes the first of the pending nodes and finds it if it is wanted. -/
theorem turn_pending (wanted : Kind → Bool) (search : Search) :
    (search.turn wanted).pending = search.pending.drop 1 ∧
      (search.turn wanted).found =
        search.found ++ (search.pending.take 1).filter fun n => wanted n.kind := by
  obtain ⟨stack, found⟩ := search
  rcases List.eq_nil_or_concat stack with rfl | ⟨below, top, rfl⟩
  · simp [Search.turn, Search.pending, preorderAll]
  · have first : Search.pending ⟨below ++ [top], found⟩ =
        top :: (preorderAll top.children ++ preorderAll below.reverse) := by
      simp [Search.pending, preorderAll, preorder_eq]
    rw [List.concat_eq_append, turn_concat, first]
    constructor
    · simp [Search.pending, preorder_all_append]
    · rfl

/-- Several turns. -/
def Search.turns (wanted : Kind → Bool) : Nat → Search → Search
  | 0, search => search
  | count + 1, search => turns wanted count (search.turn wanted)

theorem turns_pending (wanted : Kind → Bool) (count : Nat) (search : Search) :
    (search.turns wanted count).pending = search.pending.drop count ∧
      (search.turns wanted count).found =
        search.found ++ (search.pending.take count).filter fun n => wanted n.kind := by
  induction count generalizing search with
  | zero => simp [Search.turns]
  | succ count ih =>
      obtain ⟨pending, found⟩ := turn_pending wanted search
      obtain ⟨later, more⟩ := ih (search.turn wanted)
      rw [Search.turns]
      constructor
      · rw [later, pending, List.drop_drop, Nat.add_comm]
      · rw [more, found, pending, List.append_assoc, ← List.filter_append, ← List.take_add,
          Nat.add_comm]

/-- A search from a root ends after as many turns as the tree has nodes, and has then found what the
walk gives. -/
theorem search_from_root (wanted : Kind → Bool) (root : Node) :
    (∀ count, (Search.turns wanted count ⟨[root], []⟩).stack = [] ↔ root.count ≤ count) ∧
      (Search.turns wanted root.count ⟨[root], []⟩).found = root.walk wanted := by
  have start : Search.pending ⟨[root], []⟩ = root.preorder := by
    simp [Search.pending, preorderAll]
  constructor
  · intro count
    rw [← pending_nil_iff, (turns_pending wanted count _).1, start, List.drop_eq_nil_iff,
      preorder_length]
  · rw [(turns_pending wanted root.count _).2, start, walk_preorder, ← preorder_length,
      List.take_length]
    rfl

/-! Addresses. -/

def Node.at? (n : Node) : List Nat → Option Node
  | [] => some n
  | place :: below =>
      match n.children[place]? with
      | some child => child.at? below
      | none => none

mutual

def Node.addresses : Node → List (List Nat)
  | .node _ _ _ _ children => [] :: addressesFrom 0 children

def addressesFrom (place : Nat) : List Node → List (List Nat)
  | [] => []
  | child :: rest => child.addresses.map (place :: ·) ++ addressesFrom (place + 1) rest

end

theorem addresses_eq (n : Node) : n.addresses = [] :: addressesFrom 0 n.children := by
  cases n
  rw [Node.addresses, Node.children]

theorem addresses_from_start {place : Nat} {nodes : List Node} :
    ∀ address ∈ addressesFrom place nodes, ∃ first below, address = first :: below ∧ place ≤ first := by
  induction nodes generalizing place with
  | nil => intro address member; cases member
  | cons child rest ih =>
      intro address member
      rw [addressesFrom, List.mem_append] at member
      rcases member with here | later
      · obtain ⟨below, _, rfl⟩ := List.mem_map.mp here
        exact ⟨place, below, rfl, Nat.le_refl place⟩
      · obtain ⟨first, below, same, further⟩ := ih address later
        exact ⟨first, below, same, Nat.le_of_succ_le further⟩

mutual

theorem addresses_ascend : ∀ n : Node, n.addresses.Pairwise (· < ·)
  | .node _ _ _ _ children => by
      rw [Node.addresses, List.pairwise_cons]
      refine ⟨?_, addresses_from_ascend 0 children⟩
      intro address member
      obtain ⟨first, below, rfl, _⟩ := addresses_from_start address member
      exact List.nil_lt_cons first below

theorem addresses_from_ascend (place : Nat) :
    ∀ nodes : List Node, (addressesFrom place nodes).Pairwise (· < ·)
  | [] => by
      rw [addressesFrom]
      exact .nil
  | child :: rest => by
      rw [addressesFrom, List.pairwise_append]
      refine ⟨?_, addresses_from_ascend (place + 1) rest, ?_⟩
      · rw [List.pairwise_map]
        apply (addresses_ascend child).imp
        intro one other before
        exact List.cons_lt_cons_iff.mpr (.inr ⟨rfl, before⟩)
      · intro one here other later
        obtain ⟨below, _, rfl⟩ := List.mem_map.mp here
        obtain ⟨first, further, rfl, behind⟩ := addresses_from_start other later
        exact List.cons_lt_cons_iff.mpr (.inl behind)

end

mutual

theorem addresses_nodes : ∀ n : Node, n.addresses.map n.at? = n.preorder.map some
  | .node kind role start text children => by
      have below := addresses_from_nodes [] children (.node kind role start text children) rfl
      rw [Node.addresses, Node.preorder, List.map_cons, List.map_cons, ← below]
      rfl

theorem addresses_from_nodes (before : List Node) :
    ∀ (rest : List Node) (n : Node), n.children = before ++ rest →
      (addressesFrom before.length rest).map n.at? = (preorderAll rest).map some
  | [], _, _ => by
      rw [addressesFrom, preorderAll]
      rfl
  | child :: rest, n, split => by
      have here (below : List Nat) : n.at? (before.length :: below) = child.at? below := by
        simp [Node.at?, split]
      have later := addresses_from_nodes (before ++ [child]) rest n (by simp [split])
      rw [List.length_append, List.length_singleton] at later
      rw [addressesFrom, preorderAll, List.map_append, List.map_append, later, List.map_map,
        ← addresses_nodes child]
      congr 1
      exact List.map_congr_left fun below _ => here below

end

theorem mem_addresses_from {nodes : List Node} {place : Nat} {child : Node}
    (found : nodes[place]? = some child) {below : List Nat} (inside : below ∈ child.addresses)
    (first : Nat) : (first + place) :: below ∈ addressesFrom first nodes := by
  induction nodes generalizing place first with
  | nil => cases found
  | cons node rest ih =>
      rw [addressesFrom, List.mem_append]
      cases place with
      | zero =>
          obtain rfl := Option.some.inj found
          exact .inl (List.mem_map.mpr ⟨below, inside, rfl⟩)
      | succ place =>
          have later := ih found (first + 1)
          rw [Nat.add_right_comm] at later
          exact .inr later

theorem mem_addresses_iff (n : Node) (address : List Nat) :
    address ∈ n.addresses ↔ ∃ found, n.at? address = some found := by
  constructor
  · intro member
    have listed : n.at? address ∈ n.preorder.map some := by
      rw [← addresses_nodes n]
      exact List.mem_map.mpr ⟨address, member, rfl⟩
    obtain ⟨found, _, same⟩ := List.mem_map.mp listed
    exact ⟨found, same.symm⟩
  · rintro ⟨found, leads⟩
    induction address generalizing n with
    | nil =>
        rw [addresses_eq]
        exact List.mem_cons_self
    | cons place below ih =>
        rw [Node.at?] at leads
        split at leads
        · next child reached =>
            have inside := mem_addresses_from reached (ih child leads) 0
            rw [Nat.zero_add] at inside
            rw [addresses_eq]
            exact List.mem_cons_of_mem [] inside
        · cases leads

/-- Nodes of a tree that are listed once each and in its order: their addresses ascend, and they are
all addresses at which there is a node of the wanted sort. -/
def InTreeOrder (root : Node) (wanted : Node → Prop) (found : List Node) : Prop :=
  ∃ addresses : List (List Nat), addresses.Pairwise (· < ·) ∧
    (∀ address, address ∈ addresses ↔ ∃ n, root.at? address = some n ∧ wanted n) ∧
    addresses.map root.at? = found.map some

theorem walk_in_tree_order (wanted : Kind → Bool) (root : Node) :
    InTreeOrder root (fun n => wanted n.kind = true) (root.walk wanted) := by
  let test : Option Node → Bool := fun found => found.any fun n => wanted n.kind
  refine ⟨root.addresses.filter (test ∘ root.at?), (addresses_ascend root).filter _, ?_, ?_⟩
  · intro address
    rw [List.mem_filter, mem_addresses_iff]
    constructor
    · rintro ⟨⟨n, leads⟩, meets⟩
      refine ⟨n, leads, ?_⟩
      simpa [test, leads] using meets
    · rintro ⟨n, leads, meets⟩
      refine ⟨⟨n, leads⟩, ?_⟩
      simpa [test, leads] using meets
  · have chosen : (root.addresses.map root.at?).filter test =
        (root.preorder.filter fun n => wanted n.kind).map some := by
      rw [addresses_nodes, List.filter_map]
      rfl
    rw [walk_preorder, ← chosen, List.filter_map]

/-! Offsets. -/

mutual

/-- Whether the children of every node stand inside of it, one behind the other. -/
def Node.isLaidOut : Node → Bool
  | .node _ _ start text children => laidOutBetween start (start + text.length) children

/-- Whether nodes stand one behind the other between two offsets. -/
def laidOutBetween (first last : Nat) : List Node → Bool
  | [] => decide (first ≤ last)
  | child :: rest =>
      decide (first ≤ child.start) && child.isLaidOut && laidOutBetween child.stop last rest

end

structure Ascends (first last : Nat) (nodes : List Node) : Prop where
  between : ∀ n ∈ nodes, first ≤ n.start ∧ n.start ≤ last
  ordered : nodes.Pairwise fun n later => n.start ≤ later.start

mutual

theorem preorder_ascends : ∀ n : Node, n.isLaidOut = true → Ascends n.start n.stop n.preorder
  | .node kind role start text children, laidOut => by
      rw [Node.isLaidOut] at laidOut
      obtain ⟨room, between, ordered⟩ :=
        preorder_all_ascends children start (start + text.length) laidOut
      rw [Node.preorder]
      constructor
      · exact List.forall_mem_cons.mpr ⟨⟨Nat.le_refl _, room⟩, between⟩
      · exact List.pairwise_cons.mpr ⟨fun n member => (between n member).1, ordered⟩

theorem preorder_all_ascends : ∀ (nodes : List Node) (first last : Nat),
    laidOutBetween first last nodes = true →
      first ≤ last ∧ Ascends first last (preorderAll nodes)
  | [], first, last, laidOut => by
      rw [laidOutBetween, decide_eq_true_eq] at laidOut
      rw [preorderAll]
      exact ⟨laidOut, List.forall_mem_nil _, .nil⟩
  | child :: rest, first, last, laidOut => by
      rw [laidOutBetween, Bool.and_eq_true, Bool.and_eq_true, decide_eq_true_eq] at laidOut
      obtain ⟨⟨before, inside⟩, behind⟩ := laidOut
      have here := preorder_ascends child inside
      obtain ⟨room, later⟩ := preorder_all_ascends rest child.stop last behind
      have width : child.start ≤ child.stop := Nat.le_add_right _ _
      rw [preorderAll]
      refine ⟨by omega, ?_, ?_⟩
      · intro n member
        rcases List.mem_append.mp member with among | among
        · have bounds := here.between n among
          omega
        · have bounds := later.between n among
          omega
      · rw [List.pairwise_append]
        refine ⟨here.ordered, later.ordered, ?_⟩
        intro n among other further
        exact Nat.le_trans (here.between n among).2 (later.between other further).1

end

theorem walk_ascends {root : Node} (laidOut : root.isLaidOut = true) (wanted : Kind → Bool) :
    (root.walk wanted).Pairwise fun n later => n.start ≤ later.start := by
  rw [walk_preorder]
  exact (preorder_ascends root laidOut).ordered.filter _

/-- A walk is over after as many turns as the tree has nodes. It gives exactly the wanted nodes, each
once and in pre-order, which is the order of the text if the tree is laid out along it. So each
attribute gives its names once, at whatever depth it stands, also inside the value of another. -/
theorem walk_lists_tree_in_order (root : Node) :
    (∀ wanted : Kind → Bool,
      (∀ count, (Search.turns wanted count ⟨[root], []⟩).stack = [] ↔ root.count ≤ count) ∧
      (Search.turns wanted root.count ⟨[root], []⟩).found = root.walk wanted ∧
      root.walk wanted = root.preorder.filter (fun n => wanted n.kind) ∧
      InTreeOrder root (fun n => wanted n.kind = true) (root.walk wanted) ∧
      (root.isLaidOut = true → (root.walk wanted).Pairwise fun n later => n.start ≤ later.start)) ∧
    treeNames root =
      (root.preorder.filter fun n => n.kind == .jsxAttribute).flatMap attributeNames ∧
    ∀ (parse : ModuleParser) source file, Text.isAllBlank source = false →
      root = (parse true source).root → (elementUsage parse source file).used =
        (root.preorder.filter fun n => n.kind == .jsxAttribute).flatMap fun n =>
          (attributeNames n).map fun name => ⟨name, file⟩ := by
  have names : treeNames root =
      (root.preorder.filter fun n => n.kind == .jsxAttribute).flatMap attributeNames := by
    rw [treeNames, walk_preorder]
  refine ⟨?_, names, ?_⟩
  · intro wanted
    obtain ⟨ends, finds⟩ := search_from_root wanted root
    exact ⟨ends, finds, walk_preorder wanted root, walk_in_tree_order wanted root,
      fun laidOut => walk_ascends laidOut wanted⟩
  · intro parse source file visible parsed
    have used : (elementUsage parse source file).used =
        (treeNames root).map fun name => UsedName.mk name file := by
      rw [parsed, elementUsage, visible, if_neg Bool.false_ne_true]
      dsimp only
      split <;> rfl
    rw [used, names, List.map_flatMap]

/-- An element in the value of an attribute of another element. -/
def nestedSource : List Char :=
  "<a className=\x7b[<i id='x' />, 'z']\x7d id='y' />;".toList

/-- The inner attribute gives its name after the one it stands in and before the one behind that. -/
theorem walk_lists_nested_attribute :
    Text.isAllBlank nestedSource = false ∧ (parseModule true nestedSource).root.isLaidOut = true ∧
      (((parseModule true nestedSource).root.walk fun kind => kind == .jsxAttribute).Pairwise
        fun n later => n.start ≤ later.start) ∧
      (elementUsage parseModule nestedSource "a.tsx").used =
        [⟨"z", "a.tsx"⟩, ⟨"x", "a.tsx"⟩, ⟨"y", "a.tsx"⟩] := by
  have visible : Text.isAllBlank nestedSource = false := by decide
  have laidOut : (parseModule true nestedSource).root.isLaidOut = true := by decide +kernel
  obtain ⟨walks, _, uses⟩ := walk_lists_tree_in_order (parseModule true nestedSource).root
  refine ⟨visible, laidOut, (walks _).2.2.2.2 laidOut, ?_⟩
  rw [uses parseModule nestedSource "a.tsx" visible rfl]
  decide +kernel

end SelectorAudit.Markup
