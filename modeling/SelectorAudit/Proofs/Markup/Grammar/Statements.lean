import SelectorAudit.Proofs.Markup.Grammar.Expressions

/-!
# Modules read the text

The rules of classes, elements and statements, and with them all rules of the grammar to any depth.
A module's tree is therefore written in the module, whether the grammar derives it or it is made out
leniently.
-/

namespace SelectorAudit.Markup.Grammar

set_option autoImplicit false

open Text

section

variable {source : List Char} {rules : Rules} [read : rules.Read]

/-! Classes. -/

instance : Reads source (extendsClause rules) := by
  unfold extendsClause
  infer_instance

instance : Reads source (implementsClause rules) := by
  unfold implementsClause
  infer_instance

instance {start : Cursor} : Reads source (staticBlock rules start) := by
  unfold staticBlock
  infer_instance

instance {start : Cursor} {decorators : List Node} [Stems source decorators] :
    Reads source (indexSignature rules start decorators) := by
  unfold indexSignature
  infer_instance

instance {start : Cursor} {before : List Node} [Stems source before] :
    Reads source (methodMember rules start before) := by
  unfold methodMember
  refine Reads.step fun signature _ => ?_
  refine Reads.step_optional (fun body _ => ?_) ?_ <;> infer_instance

instance {start : Cursor} {before : List Node} [Stems source before] :
    Reads source (propertyMember rules start before) := by
  unfold propertyMember
  infer_instance

set_option synthInstance.maxSize 4096 in
instance : Reads source (classMember rules) := by
  unfold classMember
  infer_instance

instance : Reads source (classBody rules) := by
  unfold classBody
  infer_instance

instance : Reads source className := by
  unfold className
  infer_instance

set_option synthInstance.maxSize 4096 in
instance {kind : Kind} [Holds (isSilent kind)] {start : Cursor} {decorators : List Node}
    [Stems source decorators] : Reads source (classTail rules kind start decorators) := by
  unfold classTail
  infer_instance

instance : Reads source (classExpression rules) := by
  unfold classExpression
  infer_instance

instance {start : Cursor} {decorators : List Node} [Stems source decorators] :
    Reads source (classDeclaration rules start decorators) := by
  unfold classDeclaration
  infer_instance

/-! Elements. -/

instance {kind : Kind} [Holds (isSilent kind)] : Reads source (tagWord kind) := by
  unfold tagWord
  infer_instance

instance : Reads source attributeName := by
  unfold attributeName
  refine Reads.step fun start _ => Reads.step fun first _ => ?_
  refine Reads.step_optional (fun second _ => ?_) ?_ <;> infer_instance

instance : Reads source tagName := by
  unfold tagName
  refine Reads.step fun start _ => Reads.step fun first _ => ?_
  refine Reads.step_optional (fun second _ => ?_) ?_ <;> infer_instance

instance {dialect : Dialect} : Reads source (attributeString dialect) := by
  unfold attributeString
  refine Reads.step fun start _ => ?_
  split
  · refine Reads.step fun _ _ => ?_
    split <;> infer_instance
  · infer_instance

instance : Reads source (bracedExpression rules) := by
  unfold bracedExpression
  infer_instance

instance {dialect : Dialect} : Reads source (attributeValue rules dialect) := by
  unfold attributeValue
  refine Reads.step fun next _ => ?_
  split <;> infer_instance

instance {dialect : Dialect} : Reads source (tagAttribute rules dialect) := by
  unfold tagAttribute
  refine Reads.step fun next _ => ?_
  split <;> infer_instance

instance {dialect : Dialect} : Reads source (tagContents rules dialect) := by
  unfold tagContents
  infer_instance

instance {dialect : Dialect} : Reads source (elementChild rules dialect) where
  reads cursor placed child next run := by
    have taken (size : Nat) (ran : nodeFrom .jsxText cursor [] (cursor.move size) =
        some (child, next)) : Placed source next ∧ Stems source child :=
      Reads.at _ (placed.move size) child next ran
    unfold elementChild at run
    dsimp only at run
    split at run
    · cases run
    · split at run
      · cases run
      · exact Reads.at _ placed child next run
    · exact Reads.at _ placed child next run
    · split at run
      · exact taken _ run
      · split at run
        · exact taken _ run
        · cases run
    · split at run
      · exact taken _ run
      · split at run
        · exact taken _ run
        · cases run

instance : Reads source closingTag := by
  unfold closingTag
  infer_instance

set_option synthInstance.maxSize 4096 in
instance {dialect : Dialect} : Reads source (element rules dialect) := by
  unfold element
  infer_instance

/-! Statements. -/

instance {context : Context} : Reads source (declarator rules context) := by
  unfold declarator
  refine Reads.step fun _ _ => ?_
  infer_instance

instance {context : Context} : Reads source (declaredVariables rules context) := by
  unfold declaredVariables
  infer_instance

instance {start : Cursor} : Reads source (variableStatement rules start) := by
  unfold variableStatement
  infer_instance

set_option synthInstance.maxSize 4096 in
instance {start : Cursor} : Reads source (functionDeclaration rules start) := by
  unfold functionDeclaration
  infer_instance

set_option synthInstance.maxSize 4096 in
instance {start : Cursor} : Reads source (interfaceDeclaration rules start) := by
  unfold interfaceDeclaration
  infer_instance

set_option synthInstance.maxSize 4096 in
instance {start : Cursor} : Reads source (typeAlias rules start) := by
  unfold typeAlias
  infer_instance

instance : Reads source (enumItem rules) := by
  unfold enumItem
  infer_instance

instance {start : Cursor} : Reads source (enumDeclaration rules start) := by
  unfold enumDeclaration
  refine Reads.step fun _ _ => ?_
  infer_instance

instance {start : Cursor} : Reads source (namespaceDeclaration rules start) := by
  unfold namespaceDeclaration
  refine Reads.step fun _ _ => Reads.step fun _ _ => ?_
  refine Reads.step_optional (fun body _ => ?_) ?_ <;> infer_instance

instance {start : Cursor} : Reads source (declaration rules start) := by
  unfold declaration
  infer_instance

instance {start : Cursor} : Reads source (ambientDeclaration rules start) := by
  unfold ambientDeclaration
  infer_instance

instance : Reads source moduleName := by
  unfold moduleName
  infer_instance

instance : Reads source moduleItem := by
  unfold moduleItem
  infer_instance

instance : Reads source moduleItems := by
  unfold moduleItems
  infer_instance

instance : Reads source (moduleSource rules) := by
  unfold moduleSource
  infer_instance

set_option synthInstance.maxSize 4096 in
instance : Reads source importClause := by
  unfold importClause
  infer_instance

set_option synthInstance.maxSize 4096 in
instance : Reads source importAlias := by
  unfold importAlias
  infer_instance

instance {start : Cursor} : Reads source (importStatement rules start) := by
  unfold importStatement
  infer_instance

instance : Reads source (defaultExport rules) := by
  unfold defaultExport
  refine Reads.step fun _ _ => ?_
  infer_instance

instance : Reads source (exportedNames rules) := by
  unfold exportedNames
  refine Reads.step fun _ _ => ?_
  infer_instance

set_option synthInstance.maxSize 4096 in
instance : Reads source (exported rules) := by
  unfold exported
  infer_instance

instance {start : Cursor} {decorators : List Node} [Stems source decorators] :
    Reads source (exportStatement rules start decorators) := by
  unfold exportStatement
  infer_instance

instance {start : Cursor} : Reads source (decoratedStatement rules start) := by
  unfold decoratedStatement
  infer_instance

instance : Reads source (condition rules) := by
  unfold condition
  infer_instance

instance {start : Cursor} : Reads source (ifStatement rules start) := by
  unfold ifStatement
  infer_instance

set_option synthInstance.maxSize 4096 in
instance : Reads source (iterationHead rules) := by
  unfold iterationHead
  infer_instance

set_option synthInstance.maxSize 4096 in
instance : Reads source (countingHead rules) := by
  unfold countingHead
  infer_instance

set_option synthInstance.maxSize 4096 in
instance {start : Cursor} : Reads source (forStatement rules start) := by
  unfold forStatement
  infer_instance

instance {start : Cursor} : Reads source (whileStatement rules start) := by
  unfold whileStatement
  infer_instance

instance {start : Cursor} : Reads source (doStatement rules start) := by
  unfold doStatement
  refine Reads.step fun _ _ => ?_
  infer_instance

instance : Reads source (switchCase rules) := by
  unfold switchCase
  infer_instance

instance {start : Cursor} : Reads source (switchStatement rules start) := by
  unfold switchStatement
  refine Reads.step fun _ _ => ?_
  infer_instance

set_option synthInstance.maxSize 4096 in
instance {start : Cursor} : Reads source (tryStatement rules start) := by
  unfold tryStatement
  infer_instance

instance {start : Cursor} : Reads source (leavingStatement rules start) := by
  unfold leavingStatement
  refine Reads.step fun _ _ => ?_
  infer_instance

instance {start : Cursor} : Reads source (debuggerStatement start) := by
  unfold debuggerStatement
  infer_instance

instance {start : Cursor} : Reads source (withStatement rules start) := by
  unfold withStatement
  infer_instance

instance {start : Cursor} : Reads source (labeledStatement rules start) := by
  unfold labeledStatement
  infer_instance

instance {start : Cursor} : Reads source (expressionStatement rules start) := by
  unfold expressionStatement
  infer_instance

instance {start : Cursor} : Reads source (wordStatement rules start) := by
  unfold wordStatement
  refine Reads.step fun next _ => ?_
  split <;> infer_instance

instance : Reads source (statement rules) := by
  unfold statement
  refine Reads.step fun next _ => ?_
  split <;> infer_instance

/-! Modules. -/

instance : Reads source (program rules) := by
  unfold program
  infer_instance

instance : Reads source passToken := by
  unfold passToken
  infer_instance

instance {dialect : Dialect} : Reads source (looseMarkup rules dialect) := by
  unfold looseMarkup
  infer_instance

instance {dialect : Dialect} : Reads source (salvage rules dialect) := by
  unfold salvage
  infer_instance

end

/-! All rules, at any depth. -/

instance {dialect : Dialect} {rules : Rules} [rules.Read] : (rule dialect rules).Read where
  reads source goal := by
    cases goal <;> rw [rule] <;> infer_instance

theorem rules_up_to_read (dialect : Dialect) (depth : Nat) : (rulesUpTo dialect depth).Read := by
  induction depth with
  | zero => exact ⟨fun source _ => inferInstanceAs (Reads source fail)⟩
  | succ depth ih => exact inferInstanceAs (rule dialect (rulesUpTo dialect depth)).Read

theorem run_parser_written {source : List Char} {parser : Parser Node} [Reads source parser]
    {root : Node} (parsed : runParser parser source = some root) :
    ∃ (tree : Node) (comments : List Node), Written source tree ∧
      (∀ comment ∈ comments, IsComment comment) ∧
      root = comments.foldr (fun comment root => Node.withComment comment root) tree := by
  obtain ⟨⟨tree, last⟩, run, same⟩ := Option.map_eq_some_iff.mp parsed
  have start : Placed source (startOf source) := by
    have whole : Placed source ⟨0, source, []⟩ := ⟨List.suffix_rfl, nofun⟩
    exact whole.move _
  obtain ⟨placed, stems⟩ := Reads.at parser start tree last run
  exact ⟨tree, last.comments, stems.stems, placed.comments, same.symm⟩

end SelectorAudit.Markup.Grammar
