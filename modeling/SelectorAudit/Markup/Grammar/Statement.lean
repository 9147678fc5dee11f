import SelectorAudit.Markup.Grammar.Class

/-!
# The grammar: statements

Words such as `type` or `namespace` start a declaration only where one follows; elsewhere they are
names, and the statement is an expression.
-/

namespace SelectorAudit.Markup.Grammar

set_option autoImplicit false

open Text

def declarator (rules : Rules) (context : Context) : Parser (List Node) := do
  let bound ← rules .pattern
  let _ ← optional? (symbol "!")
  let _ ← optional? (statedType rules)
  let value ← optional? (defaultValue rules context)
  return [bound] ++ value.toList

def declaredVariables (rules : Rules) (context : Context) : Parser (List Node) := do
  keywordIn ["var", "let", "const"]
  return (← separated (declarator rules context) (symbol ",")).flatten

def variableStatement (rules : Rules) (start : Cursor) : Parser Node := do
  let parts ← declaredVariables rules .free
  statementEnd
  nodeFrom .statement start parts

/-- A function as a statement; one without a body only states a signature. -/
def functionDeclaration (rules : Rules) (start : Cursor) : Parser Node :=
  (do
    let _ ← optional? (keyword "async")
    functionTail rules start) <|>
  (do
    let _ ← optional? (keyword "async")
    keyword "function"
    let _ ← optional? (symbol "*")
    let _ ← optional? name
    let signature ← callSignature rules
    statementEnd
    nodeFrom .function start [signature])

def interfaceDeclaration (rules : Rules) (start : Cursor) : Parser Node := do
  keyword "interface"
  let _ ← name
  let _ ← optional? (typeParameters rules)
  let _ ← optional? (do
    keyword "extends"
    separated rules.skipType (symbol ","))
  typeMembers rules
  nodeFrom .statement start []

def typeAlias (rules : Rules) (start : Cursor) : Parser Node := do
  keyword "type"
  let _ ← name
  let _ ← optional? (typeParameters rules)
  symbolNotBefore "=" ['=', '>']
  rules.skipType
  statementEnd
  nodeFrom .statement start []

/-- One value of an enumeration. -/
def enumItem (rules : Rules) : Parser (List Node) := do
  let key ← memberName rules
  let value ← optional? (defaultValue rules .free)
  return [key] ++ value.toList

def enumDeclaration (rules : Rules) (start : Cursor) : Parser Node := do
  let _ ← optional? (keyword "const")
  keyword "enum"
  let _ ← name
  symbol "\x7b"
  let parts ← items (enumItem rules) "\x7d"
  nodeFrom .statement start parts.flatten

def namespaceDeclaration (rules : Rules) (start : Cursor) : Parser Node := do
  keywordIn ["namespace", "module"]
  (do let _ ← stringLiteral) <|> (do let _ ← separated name (symbol "."))
  match ← optional? (block rules) with
  | some body => nodeFrom .statement start [body]
  | none =>
      statementEnd
      nodeFrom .statement start []

def declaration (rules : Rules) (start : Cursor) : Parser Node :=
  enumDeclaration rules start <|> variableStatement rules start <|>
    functionDeclaration rules start <|> classDeclaration rules start [] <|>
    interfaceDeclaration rules start <|> typeAlias rules start <|>
    namespaceDeclaration rules start

def ambientDeclaration (rules : Rules) (start : Cursor) : Parser Node := do
  keyword "declare"
  (do
    keyword "global"
    let body ← block rules
    nodeFrom .statement start [body]) <|>
  (do
    let inner ← here
    let declared ← declaration rules inner
    nodeFrom .statement start [declared])

def moduleName : Parser Unit :=
  (do let _ ← stringLiteral) <|> (do let _ ← word)

def moduleItem : Parser Unit := do
  let _ ← many (do keywordIn ["type", "typeof"]; notAhead (symbol "," <|> symbol "\x7d" <|> keyword "as"))
  moduleName
  let _ ← optional? (do keyword "as"; moduleName)

def moduleItems : Parser Unit := do
  symbol "\x7b"
  let _ ← items moduleItem "\x7d"

def moduleSource (rules : Rules) : Parser Unit := do
  let _ ← stringLiteral
  let _ ← optional? (do
    keywordIn ["with", "assert"]
    objectLiteral rules)

def importClause : Parser Unit := do
  let starred : Parser Unit := do
    symbol "*"
    keyword "as"
    let _ ← name
  moduleItems <|> starred <|>
    (do
      let _ ← name
      let _ ← optional? (do
        symbol ","
        moduleItems <|> starred))

/-- A name for a module or a member of a namespace. -/
def importAlias : Parser Unit := do
  keyword "import"
  let _ ← optional? (do keyword "type"; notAhead (symbol "="))
  let _ ← name
  symbol "="
  (do
    keyword "require"
    symbol "("
    let _ ← stringLiteral
    symbol ")") <|> qualifiedName
  statementEnd

def importStatement (rules : Rules) (start : Cursor) : Parser Node := do
  importAlias <|>
    (do
      keyword "import"
      moduleSource rules <|>
        (do
          (do
            keywordIn ["type", "typeof"]
            importClause
            keyword "from") <|>
            (do
              importClause
              keyword "from")
          moduleSource rules)
      statementEnd)
  nodeFrom .statement start []

/-- The value of a module. -/
def defaultExport (rules : Rules) : Parser (List Node) := do
  keyword "default"
  let inner ← here
  (do return [← functionDeclaration rules inner]) <|>
    (do
      let decorators ← many (decorator rules)
      return [← classDeclaration rules inner decorators]) <|>
    (do return [← interfaceDeclaration rules inner]) <|>
    (do
      let value ← rules.expression
      statementEnd
      return [value])

def exportedNames (rules : Rules) : Parser Unit := do
  let _ ← optional? (do keyword "type"; lookahead (symbol "\x7b" <|> symbol "*"))
  (do
    symbol "*"
    let _ ← optional? (do keyword "as"; moduleName)
    keyword "from"
    moduleSource rules) <|>
    (do
      moduleItems
      let _ ← optional? (do keyword "from"; moduleSource rules))
  statementEnd

def exported (rules : Rules) : Parser (List Node) :=
  defaultExport rules <|>
  (do
    exportedNames rules
    return []) <|>
  (do
    symbolNotBefore "=" ['=', '>']
    let value ← rules.expression
    statementEnd
    return [value]) <|>
  (do
    keyword "as"
    keyword "namespace"
    let _ ← name
    statementEnd
    return []) <|>
  (do
    importAlias
    return []) <|>
  (do
    let inner ← here
    let decorators ← many (decorator rules)
    if decorators.isEmpty then
      return [← ambientDeclaration rules inner <|> declaration rules inner]
    else return [← classDeclaration rules inner decorators])

def exportStatement (rules : Rules) (start : Cursor) (decorators : List Node) : Parser Node := do
  keyword "export"
  let parts ← exported rules
  nodeFrom .exportStatement start (decorators ++ parts)

def decoratedStatement (rules : Rules) (start : Cursor) : Parser Node := do
  let decorators ← many (decorator rules)
  exportStatement rules start decorators <|> classDeclaration rules start decorators

def condition (rules : Rules) : Parser Node := do
  symbol "("
  let value ← rules.expression
  symbol ")"
  return value

def ifStatement (rules : Rules) (start : Cursor) : Parser Node := do
  keyword "if"
  let test ← condition rules
  let first ← rules .statement
  let second ← optional? (do keyword "else"; rules .statement)
  nodeFrom .statement start ([test, first] ++ second.toList)

def iterationHead (rules : Rules) : Parser (List Node) := do
  let bound ←
    (do
      keywordIn ["var", "let", "const"]
      let found ← rules .pattern
      let _ ← optional? (statedType rules)
      let value ← optional? (defaultValue rules ⟨false, true⟩)
      return [found] ++ value.toList) <|>
    (do return [← accessExpression rules true <|> rules .pattern])
  keywordIn ["of", "in"]
  let source ← rules.expression
  return bound ++ [source]

def countingHead (rules : Rules) : Parser (List Node) := do
  let first ← optional?
    (declaredVariables rules ⟨false, true⟩ <|> (do return [← rules (.expression ⟨false, true⟩)]))
  symbol ";"
  let test ← optional? rules.expression
  symbol ";"
  let step ← optional? rules.expression
  return first.getD [] ++ test.toList ++ step.toList

def forStatement (rules : Rules) (start : Cursor) : Parser Node := do
  keyword "for"
  let _ ← optional? (keyword "await")
  symbol "("
  let head ← iterationHead rules <|> countingHead rules
  symbol ")"
  let body ← rules .statement
  nodeFrom .statement start (head ++ [body])

def whileStatement (rules : Rules) (start : Cursor) : Parser Node := do
  keyword "while"
  let test ← condition rules
  let body ← rules .statement
  nodeFrom .statement start [test, body]

def doStatement (rules : Rules) (start : Cursor) : Parser Node := do
  keyword "do"
  let body ← rules .statement
  keyword "while"
  let test ← condition rules
  let _ ← optional? (symbol ";")
  nodeFrom .statement start [body, test]

def switchCase (rules : Rules) : Parser (List Node) := do
  let test ←
    (do
      keyword "case"
      return [← rules.expression]) <|>
    (do
      keyword "default"
      return [])
  symbol ":"
  return test ++ (← many (rules .statement))

def switchStatement (rules : Rules) (start : Cursor) : Parser Node := do
  keyword "switch"
  let subject ← condition rules
  symbol "\x7b"
  let cases ← many (switchCase rules)
  symbol "\x7d"
  nodeFrom .statement start (subject :: cases.flatten)

def tryStatement (rules : Rules) (start : Cursor) : Parser Node := do
  keyword "try"
  let body ← block rules
  let handler ← optional? (do
    keyword "catch"
    let bound ← optional? (do
      symbol "("
      let found ← rules .pattern
      let _ ← optional? (statedType rules)
      symbol ")"
      return found)
    let caught ← block rules
    return bound.toList ++ [caught])
  let finish ← optional? (do keyword "finally"; block rules)
  ensure (handler.isSome || finish.isSome)
  nodeFrom .statement start ([body] ++ handler.getD [] ++ finish.toList)

/-- A word that leaves a function or a loop, with a value or label on the same line. -/
def leavingStatement (rules : Rules) (start : Cursor) : Parser Node := do
  keywordIn ["return", "throw", "break", "continue"]
  let lineEnds ← lineEndsAhead
  let value ← if lineEnds then pure none else optional? rules.expression
  statementEnd
  nodeFrom .statement start value.toList

def debuggerStatement (start : Cursor) : Parser Node := do
  keyword "debugger"
  statementEnd
  nodeFrom .statement start []

def withStatement (rules : Rules) (start : Cursor) : Parser Node := do
  keyword "with"
  let subject ← condition rules
  let body ← rules .statement
  nodeFrom .statement start [subject, body]

def labeledStatement (rules : Rules) (start : Cursor) : Parser Node := do
  let _ ← name
  symbol ":"
  let body ← rules .statement
  nodeFrom .statement start [body]

def expressionStatement (rules : Rules) (start : Cursor) : Parser Node := do
  let value ← rules.expression
  statementEnd
  nodeFrom .statement start [value]

def wordStatement (rules : Rules) (start : Cursor) : Parser Node := do
  let first ← wordAhead
  match first with
  | "if" => ifStatement rules start
  | "for" => forStatement rules start
  | "while" => whileStatement rules start
  | "do" => doStatement rules start
  | "switch" => switchStatement rules start
  | "try" => tryStatement rules start
  | "return" | "throw" | "break" | "continue" => leavingStatement rules start
  | "debugger" => debuggerStatement start
  | "with" => withStatement rules start
  | "import" => importStatement rules start
  | "export" => exportStatement rules start []
  | "declare" => ambientDeclaration rules start
  | "var" | "let" | "const" | "function" | "async" | "class" | "abstract" | "interface" | "type"
  | "enum" | "namespace" | "module" => declaration rules start
  | _ => fail

def statement (rules : Rules) : Parser Node := do
  let start ← here
  match start.rest with
  | [] => fail
  | '}' :: _ => fail
  | '{' :: _ => block rules
  | ';' :: _ =>
      symbol ";"
      nodeFrom .statement start []
  | '@' :: _ => decoratedStatement rules start <|> expressionStatement rules start
  | _ =>
      wordStatement rules start <|> labeledStatement rules start <|>
        expressionStatement rules start

end SelectorAudit.Markup.Grammar
