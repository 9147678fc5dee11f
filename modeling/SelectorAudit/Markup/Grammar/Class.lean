import SelectorAudit.Markup.Grammar.Expression

/-!
# The grammar: classes

A class has decorators, a name, what it extends and implements, and members. The decorators of a
class are children of its node; those of a member are children of the member's.
-/

namespace SelectorAudit.Markup.Grammar

set_option autoImplicit false

open Text

def extendsClause (rules : Rules) : Parser Node := do
  keyword "extends"
  let parent ← accessExpression rules true
  let _ ← optional? (typeArguments rules)
  return parent

def implementsClause (rules : Rules) : Parser Unit := do
  keyword "implements"
  let _ ← separated rules.skipType (symbol ",")

/-- The words before a member. -/
def classModifiers : List String :=
  ["public", "private", "protected", "static", "abstract", "override", "readonly", "declare",
    "async", "accessor", "get", "set"]

/-- Statements that run when the class is made. -/
def staticBlock (rules : Rules) (start : Cursor) : Parser Node := do
  keyword "static"
  let body ← block rules
  nodeFrom .classMember start [body]

/-- A member that stands for properties of any name. -/
def indexSignature (rules : Rules) (start : Cursor) (decorators : List Node) : Parser Node := do
  indexMember rules
  statementEnd
  nodeFrom .classMember start decorators

def methodMember (rules : Rules) (start : Cursor) (before : List Node) : Parser Node := do
  let signature ← callSignature rules
  match ← optional? (block rules) with
  | some body => nodeFrom .classMember start (before ++ [signature, body])
  | none =>
      statementEnd
      nodeFrom .classMember start (before ++ [signature])

def propertyMember (rules : Rules) (start : Cursor) (before : List Node) : Parser Node := do
  let _ ← optional? (statedType rules)
  let value ← optional? (defaultValue rules .free)
  statementEnd
  nodeFrom .classMember start (before ++ value.toList)

def classMember (rules : Rules) : Parser Node := do
  let start ← here
  staticBlock rules start <|>
  (do
    let decorators ← many (decorator rules)
    let _ ← many (memberModifier classModifiers)
    indexSignature rules start decorators <|>
    (do
      let _ ← optional? (symbol "*")
      let key ← memberName rules
      let _ ← optional? (symbol "?" <|> symbol "!")
      let next ← ahead
      if next.head? == some '(' || next.head? == some '<' then
        methodMember rules start (decorators ++ [key])
      else propertyMember rules start (decorators ++ [key])))

def classBody (rules : Rules) : Parser Node := do
  let start ← here
  symbol "\x7b"
  let members ← many ((do symbol ";"; return []) <|> (do return [← classMember rules]))
  symbol "\x7d"
  nodeFrom .classBody start members.flatten

def className : Parser Node := do
  let found ← wordAhead
  ensure !(["extends", "implements"].contains found)
  name

def classTail (rules : Rules) (kind : Kind) (start : Cursor) (decorators : List Node) :
    Parser Node := do
  keyword "class"
  let named ← optional? className
  let _ ← optional? (typeParameters rules)
  let parent ← optional? (extendsClause rules)
  let _ ← optional? (implementsClause rules)
  let body ← classBody rules
  nodeFrom kind start (decorators ++ named.toList ++ parent.toList ++ [body])

def classExpression (rules : Rules) : Parser Node := do
  let start ← here
  let decorators ← many (decorator rules)
  classTail rules .classExpression start decorators

def classDeclaration (rules : Rules) (start : Cursor) (decorators : List Node) : Parser Node :=
  (do
    keyword "abstract"
    classTail rules .abstractClassDeclaration start decorators) <|>
  classTail rules .classDeclaration start decorators

end SelectorAudit.Markup.Grammar
