import SelectorAudit.Proofs.Markup.CommentedTree
import SelectorAudit.Proofs.Markup.Grammar.Tokens

/-!
# Expressions read the text

Whatever text the rules of a grammar are run on, each of them stays inside of it and builds only
trees that are written there, if the rules for the goals inside it do. A rule has one instance that
says so, along the rule's own structure; a rule that looks at the text ahead is split by what it
finds. Two rules build nodes that say something about the text: those of properties and of
decorators.
-/

namespace SelectorAudit.Markup.Grammar

set_option autoImplicit false

open Text

class Rules.Read (rules : Rules) : Prop where
  reads : ∀ (source : List Char) (goal : Goal), Reads source (rules goal)

section

variable {source : List Char} {rules : Rules} [read : rules.Read]

instance (goal : Goal) : Reads source (rules goal) := read.reads source goal

/-! Names. -/

instance : Reads source name := by
  unfold name
  infer_instance

instance : Reads source propertyNode := by
  unfold propertyNode
  refine Reads.step fun next _ => ?_
  split <;> infer_instance

instance : Reads source statementEnd := by
  unfold statementEnd
  infer_instance

/-! Literals. -/

instance : Reads source rules.expression := by
  unfold Rules.expression
  infer_instance

instance : Reads source rules.assignment := by
  unfold Rules.assignment
  infer_instance

instance : Reads source numberLiteral := by
  unfold numberLiteral
  infer_instance

instance : Reads source stringLiteral := by
  unfold stringLiteral
  refine Reads.step fun start _ => ?_
  split
  · refine Reads.step fun _ _ => ?_
    split <;> infer_instance
  · infer_instance

instance : Reads source regexLiteral := by
  unfold regexLiteral
  refine Reads.step fun start _ => ?_
  split
  · split <;> infer_instance
  · infer_instance

set_option synthInstance.maxSize 4096 in
instance {inner : Parser Node} [Reads source inner] (bound : Nat) :
    Reads source (templateTail inner bound) := by
  induction bound with
  | zero => exact inferInstanceAs (Reads source fail)
  | succ bound ih =>
      refine ⟨fun cursor placed values next run => ?_⟩
      have : Stems source cursor := ⟨placed⟩
      unfold templateTail at run
      split at run
      · cases run
      · exact ih.reads _ (placed.move 2) values next run
      · exact Reads.at _ placed values next run
      · split at run
        · cases run
          exact ⟨placed.move 1, inferInstance⟩
        · exact ih.reads _ (placed.move 1) values next run

instance {inner : Parser Node} [Reads source inner] : Reads source (templateOf inner) := by
  unfold templateOf
  infer_instance

instance : Reads source (templateLiteral rules) := by
  unfold templateLiteral
  infer_instance

/-! Types. -/

instance : Reads source rules.skipType := by
  unfold Rules.skipType
  infer_instance

instance : Reads source (statedType rules) := by
  unfold statedType
  infer_instance

instance : Reads source (typeArguments rules) := by
  unfold typeArguments
  infer_instance

instance : Reads source (typeParameter rules) := by
  unfold typeParameter
  refine Reads.step fun _ _ => ?_
  infer_instance

instance : Reads source (typeParameters rules) := by
  unfold typeParameters
  infer_instance

instance : Reads source (memberName rules) := by
  unfold memberName
  refine Reads.step fun next _ => ?_
  split <;> infer_instance

instance : Reads source (typeParameterItem rules) := by
  unfold typeParameterItem
  refine Reads.step fun _ _ => ?_
  infer_instance

instance : Reads source (signatureParameters rules) := by
  unfold signatureParameters
  infer_instance

instance : Reads source (resultType rules) := by
  unfold resultType
  infer_instance

instance : Reads source (statedResult rules) := by
  unfold statedResult
  infer_instance

instance : Reads source typeMemberEnd := by
  unfold typeMemberEnd
  infer_instance

instance {word : String} : Reads source (memberMark word) := by
  unfold memberMark
  infer_instance

instance : Reads source optionalMark := by
  unfold optionalMark
  infer_instance

set_option synthInstance.maxSize 4096 in
instance : Reads source (indexMember rules) := by
  unfold indexMember
  infer_instance

instance : Reads source (callMember rules) := by
  unfold callMember
  infer_instance

instance {words : List String} : Reads source (memberModifier words) := by
  unfold memberModifier
  infer_instance

instance : Reads source (namedMember rules) := by
  unfold namedMember
  refine Reads.step fun _ _ => ?_
  refine Reads.step fun _ _ => ?_
  infer_instance

instance : Reads source (typeMember rules) := by
  unfold typeMember
  infer_instance

instance : Reads source (typeMembers rules) := by
  unfold typeMembers
  infer_instance

instance : Reads source (tupleItem rules) := by
  unfold tupleItem
  refine Reads.step fun _ _ => ?_
  infer_instance

instance : Reads source qualifiedName := by
  unfold qualifiedName
  infer_instance

instance : Reads source (namedType rules) := by
  unfold namedType
  infer_instance

instance : Reads source (importType rules) := by
  unfold importType
  refine Reads.step fun _ _ => ?_
  refine Reads.step fun _ _ => ?_
  infer_instance

instance : Reads source (queryType rules) := by
  unfold queryType
  infer_instance

instance : Reads source (literalType rules) := by
  unfold literalType
  refine Reads.step fun next _ => ?_
  split <;> infer_instance

instance : Reads source (primaryType rules) := by
  unfold primaryType
  refine Reads.step fun next _ => ?_
  split <;> infer_instance

instance : Reads source (typeBrackets rules) := by
  unfold typeBrackets
  infer_instance

instance : Reads source (operatorType rules) := by
  unfold operatorType
  refine Reads.step fun _ _ => ?_
  infer_instance

instance : Reads source (intersectionType rules) := by
  unfold intersectionType
  infer_instance

instance : Reads source (unionType rules) := by
  unfold unionType
  infer_instance

instance : Reads source (functionType rules) := by
  unfold functionType
  refine Reads.step fun _ _ => ?_
  infer_instance

instance : Reads source (conditionalTail rules) := by
  unfold conditionalTail
  refine Reads.step fun _ _ => ?_
  infer_instance

instance : Reads source (typeExpression rules) := by
  unfold typeExpression
  infer_instance

/-! Patterns, functions and expressions. -/

instance {context : Context} : Reads source (defaultValue rules context) := by
  unfold defaultValue
  infer_instance

instance : Reads source (patternProperty rules) := by
  unfold patternProperty
  infer_instance

instance : Reads source (patternItem rules) := by
  unfold patternItem
  infer_instance

instance : Reads source (pattern rules) := by
  unfold pattern
  refine Reads.step fun next _ => ?_
  split <;> infer_instance

instance : Reads source (spread rules) := by
  unfold spread
  infer_instance

instance : Reads source (callArguments rules) := by
  unfold callArguments
  infer_instance

instance : Reads source (decoratorBody rules) := by
  unfold decoratorBody
  refine Reads.step fun start _ => ?_
  split
  · infer_instance
  · refine Reads.step fun first _ => Reads.step fun properties stems => ?_
    have called (callee : Node) [Stems source callee] : Reads source (do
        let called ← optional? (do
          let _ ← optional? (typeArguments rules)
          callArguments rules)
        match called with
        | some given => nodeFrom .call start [callee.inRole .function, given.inRole .arguments]
        | none => return callee) := by
      refine Reads.step_optional (fun given _ => ?_) ?_ <;> infer_instance
    dsimp only
    split
    · infer_instance
    · rename_i last found
      have : Stems source last := ⟨stems.stems last (List.mem_of_getLast? found)⟩
      infer_instance

/-! Decorators. -/

theorem yields_type_arguments {cursor : Cursor} (placed : Placed cursor.rest cursor) :
    Yields (typeArguments rules) cursor fun _ next => ∃ gap given, Gap gap ∧
      cursor.rest = gap ++ '<' :: (given ++ '>' :: next.rest) := by
  unfold typeArguments
  refine ((Reads.at (symbol "<") placed).and (yields_apart "<" cursor (by simp))).bind
    fun _ inner ⟨⟨inside, _⟩, gap, apart, passed⟩ => ?_
  have start : Placed inner.rest inner := ⟨List.suffix_rfl, inside.comments⟩
  refine (yields_items_closing ">" start).bind fun _ _ ends _ next run => ?_
  obtain ⟨-, rfl⟩ := yields_pure _ _ _ next run
  obtain ⟨given, same⟩ := ends
  exact ⟨gap, given, apart, by rw [passed, ← same]; rfl⟩

theorem yields_arguments {cursor : Cursor} (placed : Placed cursor.rest cursor) :
    Yields (callArguments rules) cursor fun given _ => ∃ gap behind, Gap gap ∧
      cursor.rest = gap ++ '(' :: behind ∧ Written behind given := by
  unfold callArguments
  refine ((Reads.at here placed).and (yields_here cursor)).bind ?_
  rintro _ _ ⟨⟨inside, -⟩, rfl, rfl⟩
  refine ((Reads.at (symbol "(") inside).and (yields_symbol "(" cursor.skip)).bind
    fun _ inner ⟨⟨inside, _⟩, _, ahead⟩ given next run => ?_
  rw [skip_skip] at ahead
  obtain ⟨gap, apart, passed⟩ := gap_ahead ahead (List.cons_ne_nil _ _)
  have start : Placed inner.rest inner := ⟨List.suffix_rfl, inside.comments⟩
  obtain ⟨-, written⟩ := Reads.at _ start given next run
  exact ⟨gap, inner.rest, apart, passed, written.stems⟩

/-- What a call behind a decorator's name is made with. -/
theorem yields_call {cursor : Cursor} (placed : Placed cursor.rest cursor) :
    Yields (do let _ ← optional? (typeArguments rules); callArguments rules) cursor fun given _ =>
      ∃ beforeArguments behind, Approach beforeArguments ∧
        cursor.rest = beforeArguments ++ '(' :: behind ∧ Written behind given := by
  refine ((Reads.at (optional? (typeArguments rules)) placed).and
    (yields_optional (typeArguments rules) cursor)).bind fun _ between ⟨⟨inside, _⟩, found⟩ => ?_
  have start : Placed between.rest between := ⟨List.suffix_rfl, inside.comments⟩
  intro given next run
  obtain ⟨gap, behind, apart, passed, written⟩ := yields_arguments start given next run
  rcases found with ⟨_, -, ran⟩ | ⟨-, rfl⟩
  · obtain ⟨before, types, free, typed⟩ := yields_type_arguments placed _ _ ran
    refine ⟨before ++ '<' :: (types ++ '>' :: gap), behind, .typed free apart, ?_, written⟩
    rw [typed, passed]
    simp
  · exact ⟨gap, behind, .plain apart, passed, written⟩

theorem component_call {decorator body object : Node} (only : decorator.children = [body])
    (found : decorator.componentObject? = some object) :
    body.kind = .call ∧ ∃ function given : Node, body.child? .function = some function ∧
      body.child? .arguments = some given ∧ function.kind = .identifier ∧
      function.text = decoratorName.toList ∧ object ∈ given.significant := by
  rw [component_object_eq] at found
  obtain ⟨call, first, found⟩ := Option.bind_eq_some_iff.mp found
  have member := Node.mem_children_of_mem_significant (List.mem_of_head? first)
  rw [only, List.mem_singleton] at member
  subst member
  split at found
  · rename_i kind
    obtain ⟨function, called, found⟩ := Option.bind_eq_some_iff.mp found
    obtain ⟨given, arguments, found⟩ := Option.bind_eq_some_iff.mp found
    split at found
    · rename_i named
      rw [Bool.and_eq_true, beq_iff_eq, beq_iff_eq] at named
      obtain ⟨inner, first, found⟩ := Option.bind_eq_some_iff.mp found
      split at found
      · cases found
        exact ⟨kind, function, given, called, arguments, named.1, named.2, List.mem_of_head? first⟩
      · cases found
    · cases found
  · cases found

theorem component_callee {decorator body callee given object : Node}
    (only : decorator.children = [body])
    (children : body.children = [callee.inRole .function, given.inRole .arguments])
    (found : decorator.componentObject? = some object) :
    callee.kind = .identifier ∧ callee.text = decoratorName.toList ∧
      object ∈ given.significant := by
  obtain ⟨-, function, arguments, called, passed, kind, named, member⟩ := component_call only found
  rw [Node.child?, children] at called passed
  cases called
  cases passed
  exact ⟨kind, named, member⟩

theorem yields_called {cursor : Cursor} (placed : Placed cursor.rest cursor) (start : Cursor)
    (callee : Node) :
    Yields (do
      let called ← optional? (do
        let _ ← optional? (typeArguments rules)
        callArguments rules)
      match called with
      | some given => nodeFrom .call start [callee.inRole .function, given.inRole .arguments]
      | none => return callee) cursor fun body _ =>
      body = callee ∨ ∃ beforeArguments behind given, Approach beforeArguments ∧
        body.children = [callee.inRole .function, given.inRole .arguments] ∧
        cursor.rest = beforeArguments ++ '(' :: behind ∧ Written behind given := by
  refine (yields_optional _ cursor).bind fun called between found => ?_
  rcases found with ⟨given, rfl, ran⟩ | ⟨rfl, rfl⟩
  · intro body next run
    obtain ⟨rfl, -⟩ := yields_node_from _ _ _ _ body next run
    obtain ⟨beforeArguments, behind, approach, passed, written⟩ := yields_call placed _ _ ran
    exact .inr ⟨beforeArguments, behind, given, approach, rfl, passed, written⟩
  · intro body next run
    exact .inl (yields_pure callee between body next run).1

theorem yields_decorator_body {cursor : Cursor} (placed : Placed cursor.rest cursor) :
    Yields (decoratorBody rules) cursor fun body _ => ∀ n object : Node, n.children = [body] →
      n.componentObject? = some object →
      ∃ beforeArguments behind, Approach beforeArguments ∧
        cursor.skip.rest = decoratorName.toList ++ beforeArguments ++ '(' :: behind ∧
        ∀ entry ∈ object.entries, KeyWritten behind entry.1 := by
  unfold decoratorBody
  refine ((Reads.at here placed).and (yields_here cursor)).bind ?_
  rintro _ _ ⟨⟨inside, -⟩, rfl, rfl⟩
  split
  · refine Yields.after fun _ _ => Yields.after fun _ _ => Yields.after fun _ _ => ?_
    intro body next run n object only found
    rw [(yields_node_from _ _ _ _ body next run).1] at only
    cases (component_call only found).1
  · refine ((Reads.at name inside).and (yields_name cursor.skip)).bind
      fun first between ⟨⟨inside, _⟩, kind, named⟩ => ?_
    rw [skip_skip] at named
    refine ((Reads.at (many (do symbol "."; propertyNode)) inside).and (yields_many _ between)).bind
      fun properties last ⟨⟨inside, _⟩, unmoved⟩ => ?_
    have start : Placed last.rest last := ⟨List.suffix_rfl, inside.comments⟩
    dsimp only
    split
    · rename_i none
      obtain rfl := unmoved (List.getLast?_eq_none_iff.mp none)
      intro body next run n object only found
      rcases yields_called start cursor.skip first body next run with
        rfl | ⟨beforeArguments, behind, given, approach, children, passed, written⟩
      · have call := (component_call only found).1
        rw [kind] at call
        cases call
      · obtain ⟨-, text, member⟩ := component_callee only children found
        have object := written.child (Node.mem_children_of_mem_significant member)
        refine ⟨beforeArguments, behind, approach, ?_, fun entry among => object.entry_key among⟩
        rw [named, text, passed, List.append_assoc]
    · refine (yields_node_from _ _ _ _).bind ?_
      rintro _ _ ⟨rfl, rfl⟩ body next run n object only found
      rcases yields_called start cursor.skip _ body next run with
        rfl | ⟨_, _, _, _, children, _, _⟩
      · cases (component_call only found).1
      · cases (component_callee only children found).1

instance : Reads source (decorator rules) where
  reads cursor placed := by
    unfold decorator
    refine ((Reads.at here placed).and (yields_here cursor)).bind ?_
    rintro _ _ ⟨⟨inside, -⟩, rfl, rfl⟩
    refine ((Reads.at (symbol "@") inside).and (yields_symbol "@" cursor.skip)).bind
      fun _ behind ⟨⟨inside, _⟩, _, ahead⟩ => ?_
    rw [skip_skip] at ahead
    have start : Placed behind.rest behind := ⟨List.suffix_rfl, inside.comments⟩
    refine ((Reads.at (decoratorBody rules) inside).and (yields_decorator_body start)).bind
      fun body last ⟨⟨inside, stems⟩, described⟩ n next run => ?_
    obtain ⟨rfl, rfl⟩ := yields_node_from _ _ _ _ n next run
    have below : Stems source [body] := inferInstance
    refine ⟨inside, ⟨.node nofun (fun _ object found => ?_) below.stems⟩⟩
    obtain ⟨beforeArguments, inner, approach, named, keys⟩ := described _ object rfl found
    obtain ⟨gap, apart, passed⟩ := gap_ahead named (by simp [decoratorName])
    refine ⟨gap, beforeArguments, inner, apart, approach, ?_, keys⟩
    refine List.IsSuffix.trans ⟨[], ?_⟩ placed.skip.suffix
    rw [ahead, passed]
    simp

set_option synthInstance.maxSize 4096 in
instance : Reads source (parameter rules) := by
  unfold parameter
  infer_instance

instance : Reads source (parameters rules) := by
  unfold parameters
  infer_instance

instance : Reads source (block rules) := by
  unfold block
  infer_instance

instance : Reads source (callSignature rules) := by
  unfold callSignature
  infer_instance

instance {start : Cursor} : Reads source (functionTail rules start) := by
  unfold functionTail
  refine Reads.step fun _ _ => ?_
  infer_instance

instance : Reads source (functionExpression rules) := by
  unfold functionExpression
  infer_instance

instance {context : Context} : Reads source (arrowBody rules context) := by
  unfold arrowBody
  infer_instance

set_option synthInstance.maxSize 4096 in
instance {context : Context} : Reads source (arrowFunction rules context) := by
  unfold arrowFunction
  infer_instance

instance : Reads source (arrayLiteral rules) := by
  unfold arrayLiteral
  infer_instance

instance {start : Cursor} {key : Node} [Stems source key] :
    Reads source (methodTail rules start key) := by
  unfold methodTail
  infer_instance

instance : Reads source (objectMethod rules) := by
  unfold objectMethod
  infer_instance

instance : Reads source (objectPair rules) where
  reads cursor placed := by
    unfold objectPair
    refine (Reads.at here placed).bind fun start first ⟨placed, _⟩ => ?_
    refine ((Reads.at (memberName rules) placed).and (yields_key rules first)).bind
      fun key behind ⟨⟨inside, keyStems⟩, spelled⟩ => ?_
    refine ((Reads.at (symbol ":") inside).and (yields_apart ":" behind (by simp))).bind
      fun _ after ⟨⟨inside, _⟩, gap, apart, colon⟩ => ?_
    refine (Reads.at rules.assignment inside).bind fun value last ⟨inside, valueStems⟩ => ?_
    intro n next run
    obtain ⟨rfl, rfl⟩ := yields_node_from _ _ _ _ n next run
    have below : Stems source [key.inRole .key, value.inRole .value] := inferInstance
    refine ⟨inside, ⟨.node (fun _ found named => ?_) nofun below.stems⟩⟩
    obtain ⟨quote, marks, ahead⟩ := spelled found named
    refine ⟨quote, gap, marks, apart, List.IsInfix.trans ⟨[], after.rest, ?_⟩
      placed.skip.suffix.isInfix⟩
    rw [ahead, colon]
    simp

instance : Reads source shorthandProperty := by
  unfold shorthandProperty
  infer_instance

instance : Reads source (objectLiteral rules) := by
  unfold objectLiteral
  infer_instance

instance : Reads source (parenthesized rules) := by
  unfold parenthesized
  refine Reads.step fun _ _ => ?_
  infer_instance

instance : Reads source (angleAssertion rules) := by
  unfold angleAssertion
  infer_instance

instance {start : Cursor} {left : Node} [Stems source left] :
    Reads source (propertyAccess start left) := by
  unfold propertyAccess
  infer_instance

instance {start : Cursor} {left : Node} [Stems source left] :
    Reads source (indexAccess rules start left) := by
  unfold indexAccess
  infer_instance

instance {start : Cursor} {left : Node} [Stems source left] :
    Reads source (callAccess rules start left) := by
  unfold callAccess
  infer_instance

instance {start : Cursor} {left : Node} [Stems source left] :
    Reads source (templateAccess rules start left) := by
  unfold templateAccess
  infer_instance

instance {start : Cursor} {left : Node} [Stems source left] :
    Reads source (optionalAccess rules start left) := by
  unfold optionalAccess
  refine Reads.step fun _ _ => Reads.step fun next _ => ?_
  split <;> infer_instance

instance {calls : Bool} {start : Cursor} {left : Node} [Stems source left] :
    Reads source (typedAccess rules calls start left) := by
  unfold typedAccess
  refine Reads.step fun _ _ => Reads.step fun next _ => ?_
  split <;> infer_instance

instance {calls : Bool} {start : Cursor} {left : Node} [Stems source left] :
    Reads source (accessStep rules calls start left) := by
  unfold accessStep
  refine Reads.step fun next _ => ?_
  split <;> infer_instance

instance {calls : Bool} {start : Cursor} (bound : Nat) {left : Node} [Stems source left] :
    Reads source (accessChain rules calls start bound left) where
  reads cursor placed value next run := by
    induction bound generalizing left cursor with
    | zero =>
        cases run
        exact ⟨placed, inferInstance⟩
    | succ bound ih =>
        unfold accessChain at run
        split at run
        · rename_i longer between ran
          obtain ⟨inside, stems⟩ := Reads.at _ placed longer between ran
          exact ih between inside run
        · cases run
          exact ⟨placed, inferInstance⟩

instance {calls : Bool} : Reads source (accessExpression rules calls) := by
  unfold accessExpression
  infer_instance

instance : Reads source (construction rules) := by
  unfold construction
  refine Reads.step fun _ _ => ?_
  refine Reads.step fun _ _ => ?_
  infer_instance

instance : Reads source (importExpression rules) := by
  unfold importExpression
  refine Reads.step fun _ _ => ?_
  infer_instance

instance : Reads source wordValue := by
  unfold wordValue
  infer_instance

instance : Reads source privateValue := by
  unfold privateValue
  infer_instance

instance {dialect : Dialect} : Reads source (primary rules dialect) := by
  unfold primary
  refine Reads.step fun next _ => ?_
  split
  case h_8 =>
    have words (text : List Char) : Reads source (match String.ofList (leadingWord text) with
        | "function" => functionExpression rules
        | "class" => rules .classExpression
        | "new" => construction rules
        | "import" => importExpression rules
        | "async" => functionExpression rules <|> name
        | _ => wordValue <|> name) := by
      split <;> infer_instance
    infer_instance
  all_goals infer_instance

instance : Reads source leadingOperator := by
  unfold leadingOperator
  refine Reads.step fun next _ => ?_
  split <;> infer_instance

instance {start : Cursor} : Reads source (awaiting rules start) := by
  unfold awaiting
  infer_instance

instance : Reads source (operand rules) := by
  unfold operand
  refine Reads.step fun start _ => ?_
  have plain : Reads source (do
      let value ← accessExpression rules true
      let lineEnds ← lineEndsAhead
      let changed ← optional? (do
        ensure (!lineEnds)
        symbol "++" <|> symbol "--")
      match changed with
      | some _ => nodeFrom .unary start [value]
      | none => return value) := by
    refine Reads.step fun value _ => Reads.step fun lineEnds _ => ?_
    refine Reads.step_optional (fun _ _ => ?_) ?_ <;> infer_instance
  infer_instance

instance {start : Cursor} {left : Node} [Stems source left] :
    Reads source (assertionTail rules start left) := by
  unfold assertionTail
  infer_instance

instance {context : Context} (bound level : Nat) {start : Cursor} {left : Node}
    [Stems source left] : Reads source (binaryTail rules context bound level start left) := by
  induction bound generalizing level start left with
  | zero => exact inferInstanceAs (Reads source (pure left))
  | succ bound ih =>
      unfold binaryTail
      refine Reads.step fun next _ => ?_
      split
      · infer_instance
      · have asserted : Reads source (do
            match ← optional? (assertionTail rules start left) with
            | some asserted => binaryTail rules context bound level start asserted
            | none => return left) := by
          refine Reads.step_optional (fun _ _ => ?_) ?_ <;> infer_instance
        infer_instance

instance {context : Context} : Reads source (binaryExpression rules context) := by
  unfold binaryExpression
  infer_instance

instance {context : Context} {first : Context} : Reads source (branches rules context first) := by
  unfold branches
  infer_instance

instance {context : Context} : Reads source (conditional rules context) := by
  unfold conditional
  refine Reads.step fun _ _ => ?_
  infer_instance

instance {context : Context} : Reads source (yielding rules context) := by
  unfold yielding
  refine Reads.step fun _ _ => ?_
  infer_instance

instance {context : Context} : Reads source (patternAssignment rules context) := by
  unfold patternAssignment
  infer_instance

instance {context : Context} : Reads source (assignment rules context) := by
  unfold assignment
  have assigned : Reads source (do
      let start ← here
      let left ← conditional rules context
      match assignmentOperator? (← ahead) with
      | some operator =>
          symbol operator
          let right ← rules (.assignment context)
          nodeFrom .assignment start [left, right]
      | none => return left) := by
    refine Reads.step fun start _ => Reads.step fun left _ => Reads.step fun next _ => ?_
    split <;> infer_instance
  infer_instance

instance {context : Context} : Reads source (expression rules context) := by
  unfold expression
  infer_instance

end

end SelectorAudit.Markup.Grammar
