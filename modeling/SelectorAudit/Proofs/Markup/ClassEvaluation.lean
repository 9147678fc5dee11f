import SelectorAudit.Markup.ClassExpression
import SelectorAudit.Markup.Program
import SelectorAudit.Proofs.Text.Words

/-!
# Class expressions and their values

Class expressions are given a meaning here: what they evaluate to when truth values are chosen for
whatever the source leaves unknown. The names that are read off the shape of an expression cover
every such choice: each identifier in a value the expression can take is among them, so a name that
can ever be used is never taken for unused.
-/

namespace SelectorAudit.Markup

set_option autoImplicit false

open Text

/-- The text between the marks of a literal. Without a backslash it stands for itself. -/
structure PlainBody where
  text : List Char
  plain : '\\' ∉ text

inductive LogicalOperator where
  | conjunction
  | disjunction
  /-- Gives way to its right operand where the left one is absent. -/
  | fallback
  deriving DecidableEq, Repr

def LogicalOperator.word : LogicalOperator → String
  | .conjunction => "&&"
  | .disjunction => "||"
  | .fallback => "??"

/-- Expressions that make up class names. Names and the values of properties are unknowns. -/
inductive ClassExpression where
  | string (mark : Char) (body : PlainBody)
  | template (body : PlainBody)
  | unknown (label : Nat)
  | parenthesized (inner : ClassExpression)
  | logical (operator : LogicalOperator) (left right : ClassExpression)
  | conditional (test consequence alternative : ClassExpression)
  | array (items : List ClassExpression)
  | call (arguments : List ClassExpression)
  | object (properties : List (PlainBody × Nat))

/-! Syntax trees. -/

def Node.quotes (n : Node) (mark : Char) (body : PlainBody) : Bool :=
  n.kind == .string && isQuote mark && n.text == mark :: (body.text ++ [mark])

def haveKeys : List (PlainBody × Nat) → List Node → Bool
  | [], nodes => nodes.isEmpty
  | property :: properties, pair :: pairs =>
      pair.kind == .pair && (pair.child? .key).any (fun key =>
        key.quotes quoteMark property.1 || key.quotes apostrophe property.1) &&
      haveKeys properties pairs
  | _ :: _, [] => false

mutual

def ClassExpression.hasTree : ClassExpression → Node → Bool
  | .string mark body, n => n.quotes mark body
  | .template body, n =>
      n.kind == .templateString && n.text == backtick :: (body.text ++ [backtick]) &&
        !n.hasSubstitutions
  | .unknown _, n => n.kind == .identifier
  | .parenthesized inner, n =>
      n.kind == .parenthesized &&
        match n.significant with
        | [child] => inner.hasTree child
        | _ => false
  | .logical operator left right, n =>
      n.kind == .binary operator.word &&
        match n.child? .left, n.child? .right with
        | some first, some second => left.hasTree first && right.hasTree second
        | _, _ => false
  | .conditional test consequence alternative, n =>
      n.kind == .ternary &&
        match n.significant, n.child? .consequence, n.child? .alternative with
        | condition :: _, some first, some second =>
            test.hasTree condition && consequence.hasTree first && alternative.hasTree second
        | _, _, _ => false
  | .array items, n => n.kind == .array && haveTrees items n.significant
  | .call arguments, n =>
      n.kind == .call &&
        match n.child? .arguments with
        | some given => given.kind == .arguments && haveTrees arguments given.significant
        | none => false
  | .object properties, n => n.kind == .object && haveKeys properties n.significant

def haveTrees : List ClassExpression → List Node → Bool
  | [], nodes => nodes.isEmpty
  | item :: items, node :: nodes => item.hasTree node && haveTrees items nodes
  | _ :: _, [] => false

end

/-! Values. -/

/-- What there is to know of a value that is no string. -/
inductive Unknown where
  | truthy
  | falsy
  | absent
  deriving DecidableEq, Repr

inductive Value where
  | text (content : List Char)
  | list (items : List Value)
  | record (entries : List (List Char × Bool))
  | other (known : Unknown)

def Value.truthy : Value → Bool
  | .text content => !content.isEmpty
  | .list _ => true
  | .record _ => true
  | .other known => known == .truthy

def Value.absent : Value → Bool
  | .other known => known == .absent
  | _ => false

mutual

/-- The class names in a value. -/
def Value.tokens : Value → List (List Char)
  | .text content => words content
  | .list items => tokensOf items
  | .record entries => (entries.filter Prod.snd).flatMap fun entry => words entry.1
  | .other _ => []

def tokensOf : List Value → List (List Char)
  | [] => []
  | item :: items => item.tokens ++ tokensOf items

end

mutual

def ClassExpression.eval (chosen : Nat → Unknown) : ClassExpression → Value
  | .string _ body => .text body.text
  | .template body => .text body.text
  | .unknown label => .other (chosen label)
  | .parenthesized inner => inner.eval chosen
  | .logical .conjunction left right =>
      if (left.eval chosen).truthy then right.eval chosen else left.eval chosen
  | .logical .disjunction left right =>
      if (left.eval chosen).truthy then left.eval chosen else right.eval chosen
  | .logical .fallback left right =>
      if (left.eval chosen).absent then right.eval chosen else left.eval chosen
  | .conditional test consequence alternative =>
      if (test.eval chosen).truthy then consequence.eval chosen else alternative.eval chosen
  | .array items => .list (evalAll chosen items)
  | .call arguments => .text (joined (tokensOf (evalAll chosen arguments)))
  | .object properties =>
      .record (properties.map fun property => (property.1.text, chosen property.2 == .truthy))

def evalAll (chosen : Nat → Unknown) : List ClassExpression → List Value
  | [] => []
  | item :: items => item.eval chosen :: evalAll chosen items

end

mutual

theorem tokens_solid : ∀ value : Value, ∀ token ∈ value.tokens, Solid token
  | .text content => by
      rw [Value.tokens]
      exact words_solid content
  | .list items => by
      rw [Value.tokens]
      exact tokens_of_solid items
  | .record entries => by
      intro token member
      rw [Value.tokens] at member
      obtain ⟨entry, _, inside⟩ := List.mem_flatMap.mp member
      exact words_solid entry.1 token inside
  | .other known => by
      rw [Value.tokens]
      exact List.forall_mem_nil _

theorem tokens_of_solid : ∀ items : List Value, ∀ token ∈ tokensOf items, Solid token
  | [] => by
      rw [tokensOf]
      exact List.forall_mem_nil _
  | item :: items => by
      rw [tokensOf]
      exact List.forall_mem_append.mpr ⟨tokens_solid item, tokens_of_solid items⟩

end

/-- A helper's call gives the class names of its arguments. -/
theorem call_tokens (chosen : Nat → Unknown) (arguments : List ClassExpression) :
    ((ClassExpression.call arguments).eval chosen).tokens =
      tokensOf (evalAll chosen arguments) := by
  rw [ClassExpression.eval, Value.tokens]
  exact words_joined (tokens_of_solid (evalAll chosen arguments))

/-! Names by shape. -/

theorem mem_class_names_of_own {n : Node} {name : String} (own : name ∈ n.ownNames) :
    name ∈ classNames n := by
  rw [classNames]
  exact List.mem_append_left _ own

theorem mem_class_names_of_operand {n operand : Node} {name : String}
    (among : operand ∈ n.operands) (passed : name ∈ classNames operand) : name ∈ classNames n := by
  rw [classNames]
  apply List.mem_append_right
  exact List.mem_flatMap.mpr ⟨⟨operand, among⟩, List.mem_attach _ _, passed⟩

theorem slice_between (first last : Char) (body : List Char) :
    slice (first :: (body ++ [last])) 1 ((first :: (body ++ [last])).length - 1) = body := by
  simp [slice]

theorem quotes_iff {n : Node} {mark : Char} {body : PlainBody} :
    n.quotes mark body = true ↔
      n.kind = .string ∧ isQuote mark = true ∧ n.text = mark :: (body.text ++ [mark]) := by
  simp [Node.quotes, and_assoc]

theorem string_value_between {n : Node} {mark : Char} {body : List Char}
    (text : n.text = mark :: (body ++ [mark])) : n.stringValue = body := by
  unfold Node.stringValue
  rw [text, if_pos (by simp)]
  exact slice_between mark mark body

theorem string_value_of_quotes {n : Node} {mark : Char} {body : PlainBody}
    (quoted : n.quotes mark body = true) : n.stringValue = body.text :=
  string_value_between (quotes_iff.mp quoted).2.2

theorem fragments_from_unsubstituted (text : List Char) (base last offset : Nat)
    (children : List Node) (whole : ∀ child ∈ children, child.kind ≠ .templateSubstitution) :
    fragmentsFrom text base last offset children = [slice text offset last] := by
  induction children with
  | nil => rfl
  | cons child rest ih =>
      obtain ⟨here, others⟩ := List.forall_mem_cons.mp whole
      rw [fragmentsFrom, if_neg (by simpa using here)]
      exact ih others

theorem fragments_of_template {n : Node} {body : List Char}
    (text : n.text = backtick :: (body ++ [backtick])) (whole : n.hasSubstitutions = false) :
    n.fragments = [body] := by
  have plain : ∀ child ∈ n.children, child.kind ≠ .templateSubstitution := by
    intro child member
    have kept := List.any_eq_false.mp whole child member
    simpa using kept
  have closed : (n.text.getLast? == some backtick && decide (1 < n.text.length)) = true := by
    rw [text, ← List.cons_append, List.getLast?_concat]
    simp
  unfold Node.fragments
  dsimp only
  rw [closed, if_pos rfl, fragments_from_unsubstituted _ _ _ _ _ plain, text]
  exact congrArg (fun fragment => [fragment]) (slice_between backtick backtick body)

/-- The keys of an object are among its names, whatever their values. -/
theorem key_names {properties : List (PlainBody × Nat)} {pairs : List Node}
    (keyed : haveKeys properties pairs = true) {property : PlainBody × Nat}
    (among : property ∈ properties) {token : List Char} (inside : token ∈ words property.1.text)
    (named : isIdentifier token = true) :
    ∃ pair ∈ pairs, ∃ key, pair.kind = .pair ∧ pair.child? .key = some key ∧ key.kind = .string ∧
      String.ofList token ∈ staticTokens key.stringValue := by
  induction properties generalizing pairs with
  | nil => cases among
  | cons first rest ih =>
      cases pairs with
      | nil => cases keyed
      | cons pair pairs =>
          rw [haveKeys, Bool.and_eq_true, Bool.and_eq_true, beq_iff_eq] at keyed
          obtain ⟨⟨kind, found⟩, later⟩ := keyed
          rcases List.mem_cons.mp among with here | there
          · obtain ⟨key, keyFound, quoted⟩ := (Option.any_eq_true _ _).mp found
            have value : key.kind = .string ∧ key.stringValue = first.1.text := by
              rcases Bool.or_eq_true_iff.mp quoted with double | single
              · exact ⟨(quotes_iff.mp double).1, string_value_of_quotes double⟩
              · exact ⟨(quotes_iff.mp single).1, string_value_of_quotes single⟩
            refine ⟨pair, List.mem_cons_self, key, kind, keyFound, value.1, ?_⟩
            rw [value.2, ← here]
            exact mem_static_tokens inside named
          · obtain ⟨other, member, rest⟩ := ih later there
            exact ⟨other, List.mem_cons_of_mem _ member, rest⟩

theorem object_names {n : Node} (kind : n.kind = .object) {pair key : Node} {name : String}
    (among : pair ∈ n.significant) (paired : pair.kind = .pair)
    (keyed : pair.child? .key = some key) (quoted : key.kind = .string)
    (told : name ∈ staticTokens key.stringValue) : name ∈ classNames n := by
  apply mem_class_names_of_own
  unfold Node.ownNames
  rw [kind]
  refine List.mem_flatMap.mpr ⟨pair, among, ?_⟩
  rw [paired, keyed]
  dsimp only
  rw [quoted, if_pos (by decide)]
  exact told

section

variable (chosen : Nat → Unknown)

theorem logical_eval (operator : LogicalOperator) (left right : ClassExpression) :
    (ClassExpression.logical operator left right).eval chosen = left.eval chosen ∨
      (ClassExpression.logical operator left right).eval chosen = right.eval chosen := by
  cases operator
  all_goals
    rw [ClassExpression.eval]
    split
    · simp
    · simp

theorem conditional_eval (test consequence alternative : ClassExpression) :
    (ClassExpression.conditional test consequence alternative).eval chosen =
        consequence.eval chosen ∨
      (ClassExpression.conditional test consequence alternative).eval chosen =
        alternative.eval chosen := by
  rw [ClassExpression.eval]
  split
  · exact Or.inl rfl
  · exact Or.inr rfl

theorem logical_operands {n left right : Node} {operator : LogicalOperator}
    (kind : n.kind = .binary operator.word) (first : n.child? .left = some left)
    (second : n.child? .right = some right) : n.operands = [left, right] := by
  unfold Node.operands
  rw [kind, first, second]
  cases operator <;> rfl

theorem conditional_operands {n consequence alternative : Node} (kind : n.kind = .ternary)
    (first : n.child? .consequence = some consequence)
    (second : n.child? .alternative = some alternative) :
    n.operands = [consequence, alternative] := by
  unfold Node.operands
  rw [kind, first, second]
  rfl

theorem call_operands {n given : Node} (kind : n.kind = .call)
    (found : n.child? .arguments = some given) (listed : given.kind = .arguments) :
    n.operands = given.significant := by
  unfold Node.operands
  rw [kind]
  dsimp only
  rw [found]
  dsimp only
  rw [listed, if_neg (by decide)]

/-- Whatever the tree of an expression, its shape tells the name that a token of the value spells. -/
def Covered (token : List Char) (expression : ClassExpression) : Prop :=
  ∀ n : Node, expression.hasTree n = true → token ∈ (expression.eval chosen).tokens →
    String.ofList token ∈ classNames n

def CoveredAmong (token : List Char) (items : List ClassExpression) : Prop :=
  ∀ nodes : List Node, haveTrees items nodes = true → token ∈ tokensOf (evalAll chosen items) →
    ∃ node ∈ nodes, String.ofList token ∈ classNames node

variable {chosen} {token : List Char}

/-! One case for each form. -/

theorem string_covered (named : isIdentifier token = true) (mark : Char) (body : PlainBody) :
    Covered chosen token (.string mark body) := by
  intro n tree member
  rw [ClassExpression.hasTree] at tree
  rw [ClassExpression.eval, Value.tokens] at member
  apply mem_class_names_of_own
  unfold Node.ownNames
  rw [(quotes_iff.mp tree).1]
  dsimp only
  rw [string_value_of_quotes tree]
  exact mem_static_tokens member named

theorem template_covered (named : isIdentifier token = true) (body : PlainBody) :
    Covered chosen token (.template body) := by
  intro n tree member
  rw [ClassExpression.hasTree, Bool.and_eq_true, Bool.and_eq_true, beq_iff_eq, beq_iff_eq,
    Bool.not_eq_true'] at tree
  rw [ClassExpression.eval, Value.tokens] at member
  apply mem_class_names_of_own
  unfold Node.ownNames
  rw [tree.1.1]
  dsimp only
  rw [fragments_of_template tree.1.2 tree.2]
  exact List.mem_flatMap.mpr ⟨body.text, List.mem_cons_self, mem_static_tokens member named⟩

theorem unknown_covered (label : Nat) : Covered chosen token (.unknown label) := by
  intro n tree member
  rw [ClassExpression.eval, Value.tokens] at member
  cases member

theorem parenthesized_covered {inner : ClassExpression} (covered : Covered chosen token inner) :
    Covered chosen token (.parenthesized inner) := by
  intro n tree member
  rw [ClassExpression.hasTree, Bool.and_eq_true, beq_iff_eq] at tree
  rw [ClassExpression.eval] at member
  obtain ⟨kind, inside⟩ := tree
  split at inside
  · rename_i child only
    have among : child ∈ n.operands := by
      unfold Node.operands
      rw [kind]
      dsimp only
      rw [only]
      exact List.mem_cons_self
    exact mem_class_names_of_operand among (covered child inside member)
  · cases inside

theorem logical_covered {left right : ClassExpression} (operator : LogicalOperator)
    (leftCovered : Covered chosen token left) (rightCovered : Covered chosen token right) :
    Covered chosen token (.logical operator left right) := by
  intro n tree member
  rw [ClassExpression.hasTree, Bool.and_eq_true, beq_iff_eq] at tree
  obtain ⟨kind, inside⟩ := tree
  split at inside
  · rename_i first second firstFound secondFound
    rw [Bool.and_eq_true] at inside
    have operands := logical_operands kind firstFound secondFound
    -- Which operand it is depends on the choice; the names of both are passed on.
    rcases logical_eval chosen operator left right with same | same
    · rw [same] at member
      exact mem_class_names_of_operand (by rw [operands]; exact List.mem_cons_self)
        (leftCovered first inside.1 member)
    · rw [same] at member
      exact mem_class_names_of_operand (by rw [operands]; simp)
        (rightCovered second inside.2 member)
  · cases inside

theorem conditional_covered {consequence alternative : ClassExpression} (test : ClassExpression)
    (consequenceCovered : Covered chosen token consequence)
    (alternativeCovered : Covered chosen token alternative) :
    Covered chosen token (.conditional test consequence alternative) := by
  intro n tree member
  rw [ClassExpression.hasTree, Bool.and_eq_true, beq_iff_eq] at tree
  obtain ⟨kind, inside⟩ := tree
  split at inside
  · rename_i condition first second _ firstFound secondFound
    rw [Bool.and_eq_true, Bool.and_eq_true] at inside
    have operands := conditional_operands kind firstFound secondFound
    rcases conditional_eval chosen test consequence alternative with same | same
    · rw [same] at member
      exact mem_class_names_of_operand (by rw [operands]; exact List.mem_cons_self)
        (consequenceCovered first inside.1.2 member)
    · rw [same] at member
      exact mem_class_names_of_operand (by rw [operands]; simp)
        (alternativeCovered second inside.2 member)
  · cases inside

theorem array_covered {items : List ClassExpression}
    (covered : CoveredAmong chosen token items) : Covered chosen token (.array items) := by
  intro n tree member
  rw [ClassExpression.hasTree, Bool.and_eq_true, beq_iff_eq] at tree
  rw [ClassExpression.eval, Value.tokens] at member
  obtain ⟨node, among, passed⟩ := covered _ tree.2 member
  refine mem_class_names_of_operand ?_ passed
  unfold Node.operands
  rw [tree.1]
  exact among

theorem call_covered {arguments : List ClassExpression}
    (covered : CoveredAmong chosen token arguments) : Covered chosen token (.call arguments) := by
  intro n tree member
  rw [ClassExpression.hasTree, Bool.and_eq_true, beq_iff_eq] at tree
  rw [call_tokens] at member
  obtain ⟨kind, inside⟩ := tree
  split at inside
  · rename_i given found
    rw [Bool.and_eq_true, beq_iff_eq] at inside
    obtain ⟨node, among, passed⟩ := covered _ inside.2 member
    exact mem_class_names_of_operand (by rw [call_operands kind found inside.1]; exact among)
      passed
  · cases inside

theorem object_covered (named : isIdentifier token = true) (properties : List (PlainBody × Nat)) :
    Covered chosen token (.object properties) := by
  intro n tree member
  rw [ClassExpression.hasTree, Bool.and_eq_true, beq_iff_eq] at tree
  rw [ClassExpression.eval, Value.tokens] at member
  obtain ⟨entry, kept, inside⟩ := List.mem_flatMap.mp member
  obtain ⟨property, among, rfl⟩ := List.mem_map.mp (List.mem_filter.mp kept).1
  obtain ⟨pair, listed, key, paired, keyed, quoted, told⟩ := key_names tree.2 among inside named
  exact object_names tree.1 listed paired keyed quoted told

theorem nothing_covered : CoveredAmong chosen token [] := by
  intro nodes trees member
  rw [evalAll, tokensOf] at member
  cases member

theorem item_covered {item : ClassExpression} {items : List ClassExpression}
    (here : Covered chosen token item) (later : CoveredAmong chosen token items) :
    CoveredAmong chosen token (item :: items) := by
  intro nodes trees member
  cases nodes with
  | nil =>
      rw [haveTrees] at trees
      cases trees
  | cons node nodes =>
      rw [haveTrees, Bool.and_eq_true] at trees
      rw [evalAll, tokensOf] at member
      rcases List.mem_append.mp member with inside | behind
      · exact ⟨node, List.mem_cons_self, here node trees.1 inside⟩
      · obtain ⟨other, among, passed⟩ := later nodes trees.2 behind
        exact ⟨other, List.mem_cons_of_mem _ among, passed⟩

mutual

theorem expression_covered (named : isIdentifier token = true) :
    ∀ expression : ClassExpression, Covered chosen token expression
  | .string mark body => string_covered named mark body
  | .template body => template_covered named body
  | .unknown label => unknown_covered label
  | .parenthesized inner => parenthesized_covered (expression_covered named inner)
  | .logical operator left right =>
      logical_covered operator (expression_covered named left) (expression_covered named right)
  | .conditional test consequence alternative =>
      conditional_covered test (expression_covered named consequence)
        (expression_covered named alternative)
  | .array items => array_covered (expressions_covered named items)
  | .call arguments => call_covered (expressions_covered named arguments)
  | .object properties => object_covered named properties

theorem expressions_covered (named : isIdentifier token = true) :
    ∀ items : List ClassExpression, CoveredAmong chosen token items
  | [] => nothing_covered
  | item :: items => item_covered (expression_covered named item) (expressions_covered named items)

end

end

/-- The names by shape cover every value that an expression can take. -/
theorem class_names_cover_values (expression : ClassExpression) {n : Node}
    (tree : expression.hasTree n = true) (chosen : Nat → Unknown) :
    ((expression.eval chosen).tokens.filter isIdentifier).map String.ofList ⊆ classNames n := by
  intro name member
  obtain ⟨token, kept, rfl⟩ := List.mem_map.mp member
  obtain ⟨inside, named⟩ := List.mem_filter.mp kept
  exact expression_covered named expression n tree inside

def firstExpression (source : String) : Node :=
  ((((parseModule true source.toList).root.walk fun kind => kind == .jsxExpression).flatMap
    Node.significant).head?).getD (.node .broken none 0 [] [])

/-- Through a call, an operator, an array, an object, a condition and parentheses. -/
theorem class_names_cover_nested :
    let expression : ClassExpression := .call [
      .string apostrophe ⟨"a b".toList, by decide⟩,
      .logical .conjunction (.unknown 0) (.array [.string quoteMark ⟨"c".toList, by decide⟩]),
      .object [(⟨"d e".toList, by decide⟩, 1)],
      .conditional (.unknown 2) (.template ⟨"f".toList, by decide⟩)
        (.parenthesized
          (.logical .fallback (.unknown 3) (.string apostrophe ⟨"g".toList, by decide⟩)))]
    let n := firstExpression ("const A = <p className=\x7bclsx('a b', on && [\x22c\x22], " ++
      "\x7b'd e': x\x7d, y ? \x60f\x60 : (z ?? 'g'))\x7d />;")
    expression.hasTree n = true ∧
      ["a", "b", "c", "d", "e", "g"] ⊆ classNames n := by
  intro expression n
  have tree : expression.hasTree n = true := by decide +kernel
  refine ⟨tree, ?_⟩
  have value : ((expression.eval fun label =>
      if label = 3 then .absent else if label = 2 then .falsy else .truthy).tokens.filter
        isIdentifier).map String.ofList = ["a", "b", "c", "d", "e", "g"] := by decide +kernel
  rw [← value]
  exact class_names_cover_values expression tree _

end SelectorAudit.Markup
