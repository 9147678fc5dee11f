import SelectorAudit.Proofs.Markup.ClassEvaluation

/-!
# A module that exports one element

The grammar derives a module whose only statement exports a function that gives one element with one
attribute, whatever plain text the attribute holds. Each rule of the grammar is run in turn, from
the attribute outwards; the rules for the goals inside a rule enter only through what they give at
the places where they are called. From the tree it follows that the module uses the words of the
text.
-/

namespace SelectorAudit.Markup

set_option autoImplicit false

open Text

namespace Grammar

/-! Running parsers. -/

section

variable {Found Later : Type} {parser : Parser Found} {next : Found → Parser Later}
  {cursor after : Cursor} {value : Found}

theorem bind_run (done : parser cursor = some (value, after)) :
    (parser >>= next) cursor = next value after := by
  show (parser cursor).bind _ = _
  rw [done]
  rfl

theorem bind_fails (failed : parser cursor = none) : (parser >>= next) cursor = none := by
  show (parser cursor).bind _ = _
  rw [failed]
  rfl

theorem or_first {other : Parser Found} (done : parser cursor = some (value, after)) :
    (parser <|> other) cursor = some (value, after) := by
  show (parser cursor).orElse _ = _
  rw [done]
  rfl

theorem or_second {other : Parser Found} (failed : parser cursor = none) :
    (parser <|> other) cursor = other cursor := by
  show (parser cursor).orElse _ = _
  rw [failed]
  rfl

theorem optional_found (done : parser cursor = some (value, after)) :
    optional? parser cursor = some (some value, after) := by
  unfold optional?
  rw [done]

theorem optional_missing (failed : parser cursor = none) :
    optional? parser cursor = some (none, cursor) := by
  unfold optional?
  rw [failed]

theorem many_once (done : parser cursor = some (value, after))
    (moved : cursor.offset < after.offset) (failed : parser after = none)
    (more : cursor.rest ≠ []) : many parser cursor = some ([value], after) := by
  obtain ⟨bound, size⟩ : ∃ bound, cursor.rest.length = bound + 1 :=
    Nat.exists_eq_succ_of_ne_zero (by simpa using more)
  unfold many
  rw [size]
  unfold manyUpTo
  rw [done]
  dsimp only
  rw [if_neg (Nat.not_le.mpr moved)]
  unfold manyUpTo
  rw [failed]
  rfl

theorem many_never (failed : parser cursor = none) : many parser cursor = some ([], cursor) := by
  unfold many manyUpTo
  rw [failed]

end

/-! The attribute. -/

/-- Text in which no mark ends an attribute and no ampersand starts a reference. -/
def PlainText (text : List Char) : Prop :=
  ∀ c ∈ text, c ≠ quoteMark ∧ c ≠ '&'

theorem attribute_length {text : List Char} (plain : PlainText text) (rest : List Char) :
    attributeLength? quoteMark (text ++ quoteMark :: rest) = some (text.length + 1) := by
  induction text with
  | nil =>
      rw [List.nil_append]
      unfold attributeLength?
      rfl
  | cons c more ih =>
      obtain ⟨here, others⟩ := List.forall_mem_cons.mp plain
      rw [List.cons_append, attributeLength?, if_neg (by simpa using here.1), ih others]
      · rfl
      · intro next later shape
        exact absurd shape here.2

def behindText : List Char := "\x22 />;\n".toList

def inFront (offset : Nat) (before : String) (text : List Char) : Cursor :=
  ⟨offset, before.toList ++ (text ++ behindText), []⟩

/-! The places between the parts of the statement, in the order of the text. -/

section

variable (text : List Char)

def atStatement : Cursor := inFront 0 "export const A = () => <div className=\x22" text
def behindExport : Cursor := inFront 6 " const A = () => <div className=\x22" text
def atDeclaration : Cursor := inFront 7 "const A = () => <div className=\x22" text
def behindConst : Cursor := inFront 12 " A = () => <div className=\x22" text
def atName : Cursor := inFront 13 "A = () => <div className=\x22" text
def behindName : Cursor := inFront 14 " = () => <div className=\x22" text
def behindEquals : Cursor := inFront 16 " () => <div className=\x22" text
def atFunction : Cursor := inFront 17 "() => <div className=\x22" text
def behindParameters : Cursor := inFront 19 " => <div className=\x22" text
def behindArrow : Cursor := inFront 22 " <div className=\x22" text
def atElement : Cursor := inFront 23 "<div className=\x22" text
def atText : Cursor := ⟨38, quoteMark :: (text ++ behindText), []⟩
def behindAttribute : Cursor := ⟨text.length + 40, " />;\n".toList, []⟩
def behindElement : Cursor := ⟨text.length + 43, ";\n".toList, []⟩
def behindStatement : Cursor := ⟨text.length + 44, "\n".toList, []⟩

theorem skip_at_element : here (atElement text) = some (atElement text, atElement text) := rfl

theorem skip_behind_arrow : here (behindArrow text) = some (atElement text, atElement text) := rfl

end

def strictDialect : Dialect := ⟨true, false⟩

def nameNode : Node := .node .propertyIdentifier none 28 "className".toList []

def textNode (text : List Char) : Node :=
  .node .string none 38 (quoteMark :: (text ++ [quoteMark])) []

section

variable {text : List Char} (plain : PlainText text) (rules : Rules)

include plain

theorem attribute_string_run :
    attributeString strictDialect (atText text) = some (textNode text, behindAttribute text) := by
  have length : attributeLength? quoteMark (text ++ behindText) = some (text.length + 1) :=
    attribute_length plain " />;\n".toList
  have split : quoteMark :: (text ++ behindText) =
      (quoteMark :: (text ++ [quoteMark])) ++ " />;\n".toList :=
    congrArg (List.cons quoteMark) (List.append_cons text quoteMark _)
  have size : (quoteMark :: (text ++ [quoteMark])).length = text.length + 2 := by simp
  have moved : (atText text).move (text.length + 2) = behindAttribute text := by
    unfold Cursor.move atText
    dsimp only
    rw [split, List.drop_left' size, Nat.add_left_comm, ← Nat.add_assoc]
    rfl
  have covered : (quoteMark :: (text ++ behindText)).take (text.length + 40 - 38) =
      quoteMark :: (text ++ [quoteMark]) := by
    rw [split, List.take_left' (size.trans (by omega))]
  have start : here (atText text) = some (atText text, atText text) := rfl
  have quoted : ensure (isQuote quoteMark) (atText text) = some ((), atText text) := rfl
  have passed : (set ((atText text).move (text.length + 1 + 1)) : Parser Unit) (atText text) =
      some ((), behindAttribute text) := congrArg (fun cursor => some ((), cursor)) moved
  have node : nodeFrom .string (atText text) [] (behindAttribute text) =
      some (textNode text, behindAttribute text) :=
    congrArg (fun covered => some (Node.node .string none 38 covered [], _)) covered
  unfold attributeString
  rw [bind_run start]
  dsimp only [atText] at quoted passed node ⊢
  rw [bind_run quoted, length]
  exact (bind_run passed).trans node

theorem tag_attribute_run :
    ∃ covered, tagAttribute rules strictDialect (inFront 27 " className=\x22" text) =
      some (.node .jsxAttribute none 28 covered [nameNode, textNode text],
        behindAttribute text) := by
  have start : here (inFront 27 " className=\x22" text) =
      some (inFront 28 "className=\x22" text, inFront 28 "className=\x22" text) := rfl
  have named : attributeName (inFront 28 "className=\x22" text) =
      some (nameNode, inFront 37 "=\x22" text) := rfl
  have equals : symbol "=" (inFront 37 "=\x22" text) = some ((), atText text) := rfl
  have value : attributeValue rules strictDialect (atText text) =
      some (textNode text, behindAttribute text) := attribute_string_run plain
  unfold tagAttribute
  rw [bind_run start]
  show ∃ covered, (attributeName >>= _) _ = _
  rw [bind_run named, bind_run (optional_found ((bind_run equals).trans value))]
  exact ⟨_, rfl⟩

/-! The element. -/

theorem tag_contents_run :
    ∃ covered, tagContents rules strictDialect (inFront 24 "div className=\x22" text) =
      some ([.node .identifier none 24 "div".toList [],
        .node .jsxAttribute none 28 covered [nameNode, textNode text]], behindAttribute text) := by
  obtain ⟨covered, given⟩ := tag_attribute_run plain rules
  have named : tagName (inFront 24 "div className=\x22" text) =
      some (.node .identifier none 24 "div".toList [], inFront 27 " className=\x22" text) := rfl
  have untyped : typeArguments rules (inFront 27 " className=\x22" text) = none := rfl
  have done : tagAttribute rules strictDialect (behindAttribute text) = none := rfl
  have moved : (inFront 27 " className=\x22" text).offset < (behindAttribute text).offset := by
    show 27 < text.length + 40
    omega
  unfold tagContents
  rw [bind_run named, bind_run (optional_missing untyped),
    bind_run (many_once given moved done (List.cons_ne_nil _ _))]
  exact ⟨covered, rfl⟩

theorem element_run :
    ∃ whole covered, element rules strictDialect (atElement text) =
      some (.node .jsxElement none 23 whole [.node .identifier none 24 "div".toList [],
        .node .jsxAttribute none 28 covered [nameNode, textNode text]], behindElement text) := by
  obtain ⟨covered, contents⟩ := tag_contents_run plain rules
  have opened : symbol "<" (atElement text) = some ((), inFront 24 "div className=\x22" text) := rfl
  have closed : symbol "/>" (behindAttribute text) = some ((), behindElement text) := rfl
  unfold element
  rw [bind_run (skip_at_element text), bind_run opened, bind_run ((or_second rfl).trans contents),
    or_first (bind_run closed)]
  exact ⟨_, covered, rfl⟩

end

/-! From the element to the statement. Each rule hands on what the rules inside it give. -/

section

variable {text : List Char} {rules : Rules} {found : Node}

theorem line_goes_on : lineEndsAhead (behindElement text) = some (false, behindElement text) := by
  show some (((";\n".toList).take (text.length + 43 - (text.length + 43))).any _, _) = _
  rw [Nat.sub_self]
  rfl

theorem primary_run
    (given : rules .element (atElement text) = some (found, behindElement text)) :
    primary rules strictDialect (atElement text) = some (found, behindElement text) := by
  have peeked : ahead (atElement text) = some ((atElement text).rest, atElement text) := rfl
  unfold primary
  rw [bind_run peeked]
  exact given

theorem access_run
    (given : rules .primary (atElement text) = some (found, behindElement text)) :
    accessExpression rules true (atElement text) = some (found, behindElement text) := by
  unfold accessExpression
  rw [bind_run (skip_at_element text), bind_run given]
  rfl

theorem operand_run
    (given : rules .primary (atElement text) = some (found, behindElement text)) :
    operand rules (atElement text) = some (found, behindElement text) := by
  have unsigned : leadingOperator (atElement text) = none := rfl
  have ready : awaiting rules (atElement text) (atElement text) = none := rfl
  unfold operand
  rw [bind_run (skip_at_element text), or_second (bind_fails unsigned), or_second ready,
    bind_run (access_run given), bind_run line_goes_on]
  rfl

theorem no_operator_behind (context : Context) (bound : Nat) (start : Cursor) :
    binaryTail rules context (bound + 1) 0 start found (behindElement text) =
      some (found, behindElement text) := by
  have peeked : ahead (behindElement text) = some (";\n".toList, behindElement text) := rfl
  have plainEnd : binaryOperator? context ";\n".toList = none := rfl
  have unasserted : assertionTail rules start found (behindElement text) = none := by
    unfold assertionTail
    rw [bind_run line_goes_on]
    rfl
  unfold binaryTail
  rw [bind_run peeked, plainEnd]
  show (optional? (assertionTail rules start found) >>= _) _ = _
  rw [bind_run (optional_missing unasserted)]
  rfl

theorem binary_run {context : Context}
    (given : rules .operand (atElement text) = some (found, behindElement text)) :
    binaryExpression rules context (atElement text) = some (found, behindElement text) := by
  unfold binaryExpression
  rw [bind_run (skip_at_element text), bind_run given]
  exact no_operator_behind context _ _

theorem conditional_run {context : Context}
    (given : rules .operand (atElement text) = some (found, behindElement text)) :
    conditional rules context (atElement text) = some (found, behindElement text) := by
  unfold conditional
  rw [bind_run (skip_at_element text), bind_run (binary_run given)]
  rfl

/-- An element is no arrow function, although its tag looks like the start of type parameters. -/
theorem no_arrow_function (context : Context) :
    arrowFunction rules context (behindArrow text) = none := by
  have prompt : keyword "async" (atElement text) = none := rfl
  have unnamed : name (atElement text) = none := rfl
  have untyped : typeParameters rules (atElement text) = none := rfl
  have unbound : parameters rules (atElement text) = none := rfl
  unfold arrowFunction
  rw [bind_run (skip_behind_arrow text)]
  apply bind_fails
  rw [or_second]
  · rw [bind_run (optional_missing prompt), bind_run (optional_missing untyped), bind_fails unbound]
  · rw [bind_run (optional_missing prompt), bind_fails unnamed]

theorem body_run
    (given : rules .operand (atElement text) = some (found, behindElement text)) :
    assignment rules .free (behindArrow text) = some (found, behindElement text) := by
  have direct : yielding rules .free (behindArrow text) = none := rfl
  unfold assignment
  rw [or_second direct, or_second (no_arrow_function .free)]
  apply or_first
  rw [bind_run (skip_behind_arrow text), bind_run (conditional_run given)]
  rfl

def parametersNode : Node := .node .parameters none 17 "()".toList []

theorem function_run
    (given : rules (.assignment .free) (behindArrow text) = some (found, behindElement text)) :
    ∃ whole, assignment rules .free (behindEquals text) =
      some (.node .function none 17 whole [parametersNode, found], behindElement text) := by
  have direct : yielding rules .free (behindEquals text) = none := rfl
  have start : here (behindEquals text) = some (atFunction text, atFunction text) := rfl
  have arrow : symbol "=>" (behindParameters text) = some ((), behindArrow text) := rfl
  have body : arrowBody rules .free (behindArrow text) = some (found, behindElement text) :=
    (or_second rfl).trans given
  have run : ∃ whole, arrowFunction rules .free (behindEquals text) =
      some (.node .function none 17 whole [parametersNode, found], behindElement text) := by
    unfold arrowFunction
    rw [bind_run start]
    show ∃ whole, (symbol "=>" >>= fun _ => arrowBody rules .free >>= fun body =>
      nodeFrom .function (atFunction text) [parametersNode, body]) (behindParameters text) =
        some (.node .function none 17 whole _, _)
    rw [bind_run arrow, bind_run body]
    exact ⟨_, rfl⟩
  obtain ⟨whole, run⟩ := run
  unfold assignment
  rw [or_second direct]
  exact ⟨whole, or_first run⟩

theorem pattern_run : pattern rules (behindConst text) =
    some (.node .identifier none 13 "A".toList [], behindName text) := by
  have start : here (behindConst text) = some (atName text, atName text) := rfl
  have again : here (atName text) = some (atName text, atName text) := rfl
  have spelled : word (atName text) = some ("A", behindName text) := rfl
  have free : reservedWords.contains "A" = false := by simp [reservedWords]
  unfold pattern
  rw [bind_run start]
  show name (atName text) = _
  unfold name
  rw [bind_run again, bind_run spelled, free]
  rfl

theorem declarator_run {bound : Node}
    (named : rules .pattern (behindConst text) = some (bound, behindName text))
    (given : rules (.assignment .free) (behindEquals text) = some (found, behindElement text)) :
    declarator rules .free (behindConst text) = some ([bound, found], behindElement text) := by
  have certain : symbol "!" (behindName text) = none := rfl
  have untyped : statedType rules (behindName text) = none := rfl
  have equals : symbolNotBefore "=" ['=', '>'] (behindName text) = some ((), behindEquals text) :=
    rfl
  have value : defaultValue rules .free (behindName text) = some (found, behindElement text) :=
    (bind_run equals).trans given
  unfold declarator
  rw [bind_run named, bind_run (optional_missing certain), bind_run (optional_missing untyped),
    bind_run (optional_found value)]
  rfl

theorem declaration_run {bound : Node}
    (given : declarator rules .free (behindConst text) = some ([bound, found], behindElement text))
    (start : Cursor) :
    ∃ whole, declaration rules start (atDeclaration text) =
      some (.node .statement none start.offset whole [bound, found], behindStatement text) := by
  have unlisted : enumDeclaration rules start (atDeclaration text) = none := rfl
  have announced : keywordIn ["var", "let", "const"] (atDeclaration text) =
      some ((), behindConst text) := rfl
  have alone : many (do symbol ","; declarator rules .free) (behindElement text) =
      some ([], behindElement text) := many_never rfl
  have declared : declaredVariables rules .free (atDeclaration text) =
      some ([bound, found], behindElement text) := by
    unfold declaredVariables separated
    rw [bind_run announced, bind_run ((bind_run given).trans (bind_run alone))]
    rfl
  have ended : statementEnd (behindElement text) = some ((), behindStatement text) := rfl
  have run : ∃ whole, variableStatement rules start (atDeclaration text) =
      some (.node .statement none start.offset whole [bound, found], behindStatement text) := by
    unfold variableStatement
    rw [bind_run declared, bind_run ended]
    exact ⟨_, rfl⟩
  obtain ⟨whole, run⟩ := run
  unfold declaration
  rw [or_second unlisted]
  exact ⟨whole, or_first run⟩

theorem exported_run
    (given : declaration rules (atDeclaration text) (atDeclaration text) =
      some (found, behindStatement text)) :
    exported rules (behindExport text) = some ([found], behindStatement text) := by
  have start : here (behindExport text) = some (atDeclaration text, atDeclaration text) := rfl
  have undecorated : many (decorator rules) (atDeclaration text) =
      some ([], atDeclaration text) := many_never rfl
  have defined : ambientDeclaration rules (atDeclaration text) (atDeclaration text) = none := rfl
  unfold exported
  rw [or_second rfl, or_second rfl, or_second rfl, or_second rfl, or_second rfl, bind_run start,
    bind_run undecorated]
  exact bind_run ((or_second defined).trans given)

theorem statement_run
    (given : declaration rules (atDeclaration text) (atDeclaration text) =
      some (found, behindStatement text)) :
    ∃ whole, statement rules (atStatement text) =
      some (.node .exportStatement none 0 whole [found], behindStatement text) := by
  have start : here (atStatement text) = some (atStatement text, atStatement text) := rfl
  have first : wordAhead (atStatement text) = some ("export", atStatement text) := rfl
  have announced : keyword "export" (atStatement text) = some ((), behindExport text) := rfl
  have run : ∃ whole, exportStatement rules (atStatement text) [] (atStatement text) =
      some (.node .exportStatement none 0 whole [found], behindStatement text) := by
    unfold exportStatement
    rw [bind_run announced, bind_run (exported_run given)]
    exact ⟨_, rfl⟩
  obtain ⟨whole, run⟩ := run
  refine ⟨whole, ?_⟩
  unfold statement
  rw [bind_run start]
  refine or_first ?_
  unfold wordStatement
  rw [bind_run first]
  exact run

theorem program_run
    (given : rules .statement (atStatement text) = some (found, behindStatement text))
    (done : rules .statement (behindStatement text) = none) :
    ∃ whole finish, program rules (atStatement text) =
      some (.node .program none 0 whole [found], finish) ∧ finish.comments = [] := by
  have moved : (atStatement text).offset < (behindStatement text).offset := Nat.succ_pos _
  have start : (get : Parser Cursor) (atStatement text) =
      some (atStatement text, atStatement text) := rfl
  unfold program
  rw [bind_run start, bind_run (many_once given moved done (List.cons_ne_nil _ _))]
  exact ⟨_, _, rfl, rfl⟩

end

/-! The rules tied together. -/

def elementModule (text : List Char) : List Char :=
  "export const A = () => <div className=\x22".toList ++ (text ++ "\x22 />;\n".toList)

/-- A chain of nodes leads from the module to the attribute; no other node has children. -/
theorem strict_tree {text : List Char} (plain : PlainText text) :
    ∃ whole exported declared arrow tagged covered,
      strictTree? true (elementModule text) =
        some (.node .program none 0 whole [.node .exportStatement none 0 exported
          [.node .statement none 7 declared [.node .identifier none 13 "A".toList [],
            .node .function none 17 arrow [parametersNode,
              .node .jsxElement none 23 tagged [.node .identifier none 24 "div".toList [],
                .node .jsxAttribute none 28 covered [nameNode, textNode text]]]]]]) := by
  obtain ⟨depth, deep⟩ : ∃ depth, depthFor (elementModule text) = depth + 6 :=
    Nat.exists_eq_add_of_le' (by unfold depthFor; omega)
  let rules := rulesUpTo strictDialect
  -- Each rule calls the next one a level deeper: six levels lead from the module to the element.
  obtain ⟨tagged, covered, element⟩ := element_run plain (rules depth)
  have primary := @primary_run text (rules (depth + 1)) _ element
  have operand := @operand_run text (rules (depth + 2)) _ primary
  have body := @body_run text (rules (depth + 3)) _ operand
  obtain ⟨arrow, bound⟩ := @function_run text (rules (depth + 4)) _ body
  have named := @pattern_run text (rules (depth + 4))
  have declarator := @declarator_run text (rules (depth + 5)) _ _ named bound
  obtain ⟨declared, declaration⟩ := declaration_run declarator (atDeclaration text)
  obtain ⟨exported, statement⟩ := @statement_run text (rules (depth + 5)) _ declaration
  have done : rules (depth + 6) .statement (behindStatement text) = none := rfl
  obtain ⟨whole, finish, run, comments⟩ := @program_run text (rules (depth + 6)) _ statement done
  have start : startOf (elementModule text) = atStatement text := rfl
  refine ⟨whole, exported, declared, arrow, tagged, covered, ?_⟩
  unfold strictTree? runParser
  rw [deep, start]
  show ((program (rules (depth + 6)) _).map _) = _
  rw [run]
  show some (finish.comments.foldr _ _) = _
  rw [comments]
  rfl

end Grammar

/-! What the module uses. -/

theorem writable_append {first second : List Char} (front : isWritable first = true)
    (back : isWritable second = true) : isWritable (first ++ second) = true := by
  unfold isWritable at *
  rw [List.all_append, front, back]
  rfl

theorem tag_attribute_names (covered text : List Char) :
    attributeNames (.node .jsxAttribute none 28 covered [Grammar.nameNode, Grammar.textNode text]) =
      staticTokens text := by
  have value : (Grammar.textNode text).stringValue = text := string_value_between rfl
  show staticTokens (Grammar.textNode text).stringValue = _
  rw [value]

/-- A parser finds nothing wrong in the module, and in its tree one attribute with a string. -/
structure ReadsElement (parse : ModuleParser) (text : List Char) : Prop where
  intact : (parse true (Grammar.elementModule text)).intact = true
  only : ∃ covered,
    (parse true (Grammar.elementModule text)).root.walk (fun kind => kind == .jsxAttribute) =
      [.node .jsxAttribute none 28 covered [Grammar.nameNode, Grammar.textNode text]]

theorem parse_module_reads_element {text : List Char} (plain : Grammar.PlainText text)
    (writable : isWritable text = true) : ReadsElement parseModule text := by
  obtain ⟨whole, exported, declared, arrow, tagged, covered, tree⟩ := Grammar.strict_tree plain
  have intact : isWritable (Grammar.elementModule text) = true :=
    writable_append (by decide +kernel) (writable_append writable (by decide +kernel))
  unfold parseModule
  constructor
  · rw [tree]
    exact intact
  · refine ⟨covered, ?_⟩
    rw [tree]
    unfold Node.walk Node.visits
    simp only [visitStack, Node.children, List.map_cons, List.map_nil, List.cons_append,
      List.nil_append, Grammar.parametersNode, Grammar.nameNode, Grammar.textNode]
    rfl

/-- A module with one attribute is well formed and uses the words in the attribute. -/
theorem element_module_usage {parse : ModuleParser} {text : List Char}
    (reads : ReadsElement parse text) (file : String) :
    (elementUsage parse (Grammar.elementModule text) file).used =
        (staticTokens text).map (fun name => UsedName.mk name file) ∧
      (elementUsage parse (Grammar.elementModule text) file).errors = [] := by
  obtain ⟨intact, covered, only⟩ := reads
  have solid : isAllBlank (Grammar.elementModule text) = false := rfl
  have names : treeNames (parse true (Grammar.elementModule text)).root = staticTokens text := by
    rw [treeNames, only, List.flatMap_singleton, tag_attribute_names]
  unfold elementUsage
  rw [solid, if_neg Bool.false_ne_true]
  dsimp only
  rw [if_pos intact, names]
  exact ⟨rfl, rfl⟩

end SelectorAudit.Markup
