import SelectorAudit.Markup.Grammar.TypeExpression

/-!
# The grammar: patterns, functions and expressions

Operators bind in the usual order of levels. Of the operators that take a type on their right,
`as` and `satisfies`, both bind more loosely than all binary operators, so that `a || b as T` asserts
the type of the whole disjunction.
-/

namespace SelectorAudit.Markup.Grammar

set_option autoImplicit false

open Text

def defaultValue (rules : Rules) (context : Context) : Parser Node := do
  symbolNotBefore "=" ['=', '>']
  rules (.assignment context)

def patternProperty (rules : Rules) : Parser (List Node) :=
  (do
    symbol "..."
    return [← rules .pattern]) <|>
  (do
    let key ← memberName rules
    symbol ":"
    let value ← rules .pattern
    let fallback ← optional? (defaultValue rules .free)
    return [key, value] ++ fallback.toList) <|>
  (do
    let bound ← name
    let fallback ← optional? (defaultValue rules .free)
    return [bound] ++ fallback.toList)

def patternItem (rules : Rules) : Parser (List Node) :=
  (do
    symbol "..."
    return [← rules .pattern]) <|>
  (do
    let value ← rules .pattern
    let fallback ← optional? (defaultValue rules .free)
    return [value] ++ fallback.toList)

/-- What a declaration or a parameter binds. -/
def pattern (rules : Rules) : Parser Node := do
  let start ← here
  match start.rest with
  | '{' :: _ =>
      symbol "\x7b"
      let parts ← sparseItems (patternProperty rules) "\x7d"
      nodeFrom .pattern start parts.flatten
  | '[' :: _ =>
      symbol "["
      let parts ← sparseItems (patternItem rules) "]"
      nodeFrom .pattern start parts.flatten
  | _ => name

/-- A value with three dots before it. -/
def spread (rules : Rules) : Parser Node := do
  let start ← here
  symbol "..."
  let value ← rules.assignment
  nodeFrom .spread start [value]

def callArguments (rules : Rules) : Parser Node := do
  let start ← here
  symbol "("
  let found ← sparseItems (spread rules <|> rules.assignment) ")"
  nodeFrom .arguments start found

/-- A call behind an at sign, or the value there: a name, a member or something in parentheses. -/
def decoratorBody (rules : Rules) : Parser Node := do
  let start ← here
  match start.rest with
  | '(' :: _ =>
      symbol "("
      let inner ← rules.expression
      symbol ")"
      nodeFrom .parenthesized start [inner]
  | _ =>
      let first ← name
      let properties ← many (do symbol "."; propertyNode)
      let callee ← match properties.getLast? with
        | none => pure first
        | some last => nodeFrom .member start [first, last.inRole .property]
      let called ← optional? (do
        let _ ← optional? (typeArguments rules)
        callArguments rules)
      match called with
      | some given => nodeFrom .call start [callee.inRole .function, given.inRole .arguments]
      | none => return callee

def decorator (rules : Rules) : Parser Node := do
  let start ← here
  symbol "@"
  let body ← decoratorBody rules
  nodeFrom .decorator start [body]

def parameter (rules : Rules) : Parser (List Node) := do
  let decorators ← many (decorator rules)
  let _ ← many (memberModifier ["public", "private", "protected", "readonly", "override"])
  let _ ← optional? (symbol "...")
  let bound ← rules .pattern <|> (do keyword "this"; let start ← here; nodeFrom .identifier start [])
  let _ ← optional? (symbol "?")
  let _ ← optional? (statedType rules)
  let fallback ← optional? (defaultValue rules .free)
  return decorators ++ [bound] ++ fallback.toList

def parameters (rules : Rules) : Parser Node := do
  let start ← here
  symbol "("
  let parts ← items (parameter rules) ")"
  nodeFrom .parameters start parts.flatten

/-- Statements between braces. -/
def block (rules : Rules) : Parser Node := do
  let start ← here
  symbol "\x7b"
  let statements ← many (rules .statement)
  symbol "\x7d"
  nodeFrom .statement start statements

/-- The parameters of a function and the type of its result. -/
def callSignature (rules : Rules) : Parser Node := do
  let _ ← optional? (typeParameters rules)
  let found ← parameters rules
  let _ ← optional? (statedResult rules)
  return found

def functionTail (rules : Rules) (start : Cursor) : Parser Node := do
  keyword "function"
  let _ ← optional? (symbol "*")
  let _ ← optional? name
  let signature ← callSignature rules
  let body ← block rules
  nodeFrom .function start [signature, body]

def functionExpression (rules : Rules) : Parser Node := do
  let start ← here
  let _ ← optional? (keyword "async")
  functionTail rules start

def arrowBody (rules : Rules) (context : Context) : Parser Node :=
  block rules <|> rules (.assignment context)

/-- An arrow function; the word `async` may stand before it. -/
def arrowFunction (rules : Rules) (context : Context) : Parser Node := do
  let start ← here
  let signature ←
    (do
      let _ ← optional? (keyword "async")
      let bound ← name
      let _ ← lookahead (symbol "=>")
      return [bound]) <|>
    (do
      let _ ← optional? (keyword "async")
      let _ ← optional? (typeParameters rules)
      let found ← parameters rules
      let _ ← if context.resultType then optional? (statedResult rules) else pure none
      return [found])
  let lineEnds ← lineEndsAhead
  ensure (!lineEnds)
  symbol "=>"
  let body ← arrowBody rules context
  nodeFrom .function start (signature ++ [body])

def arrayLiteral (rules : Rules) : Parser Node := do
  let start ← here
  symbol "["
  let found ← sparseItems (spread rules <|> rules.assignment) "]"
  nodeFrom .array start found

def methodTail (rules : Rules) (start : Cursor) (key : Node) : Parser Node := do
  let _ ← optional? (symbol "?")
  let signature ← callSignature rules
  let body ← block rules
  nodeFrom .method start [key, signature, body]

def objectMethod (rules : Rules) : Parser Node := do
  let start ← here
  let _ ← many (memberModifier ["async", "get", "set", "static"])
  let _ ← optional? (symbol "*")
  let key ← memberName rules
  methodTail rules start key

def objectPair (rules : Rules) : Parser Node := do
  let start ← here
  let key ← memberName rules
  symbol ":"
  let value ← rules.assignment
  nodeFrom .pair start [key.inRole .key, value.inRole .value]

def shorthandProperty : Parser Node := do
  let start ← here
  let bound ← name
  nodeFrom .pattern start [bound]

def objectLiteral (rules : Rules) : Parser Node := do
  let start ← here
  symbol "\x7b"
  let found ← sparseItems
    (spread rules <|> objectPair rules <|> objectMethod rules <|> shorthandProperty) "\x7d"
  nodeFrom .object start found

def parenthesized (rules : Rules) : Parser Node := do
  let start ← here
  symbol "("
  let inner ← rules.expression
  let _ ← optional? (statedType rules)
  symbol ")"
  nodeFrom .parenthesized start [inner]

def angleAssertion (rules : Rules) : Parser Node := do
  let start ← here
  typeArguments rules
  let value ← rules .operand
  nodeFrom .assertion start [value]

def propertyAccess (start : Cursor) (left : Node) : Parser Node := do
  let property ← propertyNode
  nodeFrom .member start [left, property.inRole .property]

def indexAccess (rules : Rules) (start : Cursor) (left : Node) : Parser Node := do
  symbol "["
  let index ← rules.expression
  symbol "]"
  nodeFrom .subscript start [left, index.inRole .index]

def callAccess (rules : Rules) (start : Cursor) (left : Node) : Parser Node := do
  let given ← callArguments rules
  nodeFrom .call start [left.inRole .function, given.inRole .arguments]

def templateAccess (rules : Rules) (start : Cursor) (left : Node) : Parser Node := do
  let given ← templateLiteral rules
  nodeFrom .call start [left.inRole .function, given.inRole .arguments]

def optionalAccess (rules : Rules) (start : Cursor) (left : Node) : Parser Node := do
  symbol "?."
  let next ← ahead
  match next with
  | '(' :: _ => callAccess rules start left
  | '[' :: _ => indexAccess rules start left
  | c :: _ =>
      if c == backtick then templateAccess rules start left
      else if c == '<' then do typeArguments rules; callAccess rules start left
      else propertyAccess start left
  | [] => fail

def continuingWords : List String := ["in", "instanceof", "as", "satisfies", "of"]

def startsOperand (text : List Char) : Bool :=
  match text with
  | c :: _ =>
      if isWordStart c then !continuingWords.contains (String.ofList (leadingWord text))
      else isDigit c || isQuote c || c == backtick || "([\x7b+-!~/<@#".toList.contains c
  | [] => false

/-- Type arguments behind a value: those of a call, or of the value itself. -/
def typedAccess (rules : Rules) (calls : Bool) (start : Cursor) (left : Node) : Parser Node := do
  typeArguments rules
  let next ← ahead
  match next with
  | '(' :: _ => do ensure calls; callAccess rules start left
  | c :: _ =>
      if c == backtick then templateAccess rules start left
      else do ensure (!startsOperand next); nodeFrom .instantiation start [left]
  | [] => nodeFrom .instantiation start [left]

/-- One access behind a value: a property, an index, a call or a mark of presence. -/
def accessStep (rules : Rules) (calls : Bool) (start : Cursor) (left : Node) : Parser Node := do
  let next ← ahead
  match next with
  | '.' :: _ => do symbol "."; propertyAccess start left
  | '?' :: '.' :: c :: _ => do ensure (calls && !isDigit c); optionalAccess rules start left
  | '[' :: _ => indexAccess rules start left
  | '(' :: _ => do ensure calls; callAccess rules start left
  | '<' :: _ => do ensure calls; typedAccess rules calls start left
  | '!' :: _ => do
      let lineEnds ← lineEndsAhead
      ensure (calls && !lineEnds)
      symbolNotBefore "!" ['=']
      nodeFrom .assertion start [left]
  | c :: _ => do ensure (c == backtick); templateAccess rules start left
  | [] => fail

/-- All accesses behind a value. -/
def accessChain (rules : Rules) (calls : Bool) (start : Cursor) : Nat → Node → Parser Node
  | 0, left => pure left
  | bound + 1, left => fun cursor =>
      match accessStep rules calls start left cursor with
      | some (longer, next) => accessChain rules calls start bound longer next
      | none => some (left, cursor)

/-- A value with the accesses behind it. -/
def accessExpression (rules : Rules) (calls : Bool) : Parser Node := do
  let start ← here
  let first ← rules .primary
  accessChain rules calls start (start.rest.length + 1) first

/-- A new instance of a class, or the class that a call was made with. -/
def construction (rules : Rules) : Parser Node := do
  let start ← here
  keyword "new"
  (do
    symbol "."
    keyword "target"
    nodeFrom .metaProperty start []) <|>
    (do
      let callee ← accessExpression rules false
      let _ ← optional? (typeArguments rules)
      let given ← optional? (callArguments rules)
      nodeFrom .construction start ([callee] ++ given.toList))

/-- A call that loads a module, or what is known about this one. -/
def importExpression (rules : Rules) : Parser Node := do
  let start ← here
  keyword "import"
  let callee ← nodeFrom .identifier start []
  (do
    symbol "."
    let _ ← word
    nodeFrom .metaProperty start []) <|> callAccess rules start callee

def wordValue : Parser Node := do
  let start ← here
  keywordIn ["this", "super", "null", "true", "false"]
  nodeFrom .identifier start []

def privateValue : Parser Node := do
  let found ← propertyNode
  ensure (found.kind == .privateIdentifier)
  return found

def primary (rules : Rules) (dialect : Dialect) : Parser Node := do
  let next ← ahead
  match next with
  | '(' :: _ => parenthesized rules
  | '[' :: _ => arrayLiteral rules
  | '{' :: _ => objectLiteral rules
  | '/' :: _ => regexLiteral
  | '@' :: _ => rules .classExpression
  | '#' :: _ => privateValue
  | '<' :: _ => if dialect.elements then rules .element else angleAssertion rules
  | c :: _ =>
      if isQuote c then stringLiteral
      else if c == backtick then templateLiteral rules
      else if isDigit c || c == '.' then numberLiteral
      else
        match String.ofList (leadingWord next) with
        | "function" => functionExpression rules
        | "class" => rules .classExpression
        | "new" => construction rules
        | "import" => importExpression rules
        | "async" => functionExpression rules <|> name
        | _ => wordValue <|> name
  | [] => fail

def leadingOperator : Parser Unit := do
  let next ← ahead
  match next with
  | '!' :: _ => symbol "!"
  | '~' :: _ => symbol "~"
  | '+' :: _ => symbol "++" <|> symbol "+"
  | '-' :: _ => symbol "--" <|> symbol "-"
  | _ => keywordIn ["typeof", "void", "delete"]

def awaiting (rules : Rules) (start : Cursor) : Parser Node := do
  keyword "await"
  let next ← ahead
  ensure (startsOperand next)
  let value ← rules .operand
  nodeFrom .unary start [value]

def operand (rules : Rules) : Parser Node := do
  let start ← here
  (do
    leadingOperator
    let value ← rules .operand
    nodeFrom .unary start [value]) <|>
  awaiting rules start <|>
  (do
    let value ← accessExpression rules true
    let lineEnds ← lineEndsAhead
    let changed ← optional? (do
      ensure (!lineEnds)
      symbol "++" <|> symbol "--")
    match changed with
    | some _ => nodeFrom .unary start [value]
    | none => return value)

/-- The binary operators and their levels, longer ones before those they start with. -/
def binaryOperators : List (String × Nat) :=
  [("===", 7), ("!==", 7), (">>>", 9), ("**", 12), ("==", 7), ("!=", 7), ("<=", 8), (">=", 8),
    ("<<", 9), (">>", 9), ("&&", 3), ("||", 2), ("??", 1), ("+", 10), ("-", 10), ("*", 11),
    ("/", 11), ("%", 11), ("&", 6), ("|", 4), ("^", 5), ("<", 8), (">", 8)]

def assignmentOperators : List String :=
  [">>>=", "<<=", ">>=", "**=", "&&=", "||=", "??=", "+=", "-=", "*=", "/=", "%=", "&=", "|=", "^="]

def assignmentOperator? (text : List Char) : Option String :=
  match text with
  | '=' :: next :: _ => if next == '=' || next == '>' then none else some "="
  | _ => assignmentOperators.find? fun operator => operator.toList.isPrefixOf text

def binaryOperator? (context : Context) (text : List Char) : Option (String × Nat) :=
  match String.ofList (leadingWord text) with
  | "instanceof" => some ("instanceof", 8)
  | "in" => if context.membership then some ("in", 8) else none
  | _ =>
      if (assignmentOperator? text).isSome || "++".toList.isPrefixOf text ||
          "--".toList.isPrefixOf text then none
      else binaryOperators.find? fun entry => entry.1.toList.isPrefixOf text

def assertionTail (rules : Rules) (start : Cursor) (left : Node) : Parser Node := do
  let lineEnds ← lineEndsAhead
  ensure (!lineEnds)
  keywordIn ["as", "satisfies"]
  rules.skipType
  nodeFrom .assertion start [left]

/-- Goes on behind an operand with the operators of a level and above. The first number bounds the
operators. -/
def binaryTail (rules : Rules) (context : Context) :
    Nat → Nat → Cursor → Node → Parser Node
  | 0, _, _, left => pure left
  | bound + 1, level, start, left => do
      let next ← ahead
      match binaryOperator? context next with
      | some (operator, rank) =>
          if rank < level then return left
          else
            symbol operator
            let rightStart ← here
            let first ← rules .operand
            let right ← binaryTail rules context bound (if rank == 12 then rank else rank + 1)
              rightStart first
            let whole ← nodeFrom (.binary operator) start
              [left.inRole .left, right.inRole .right]
            binaryTail rules context bound level start whole
      | none =>
          if level == 0 then
            match ← optional? (assertionTail rules start left) with
            | some asserted => binaryTail rules context bound level start asserted
            | none => return left
          else return left

def binaryExpression (rules : Rules) (context : Context) : Parser Node := do
  let start ← here
  let first ← rules .operand
  binaryTail rules context (start.rest.length + 1) 0 start first

/-- Whether a question mark ahead asks for a condition. -/
def startsChoice (text : List Char) : Bool :=
  match text with
  | '?' :: '.' :: c :: _ => isDigit c
  | '?' :: '?' :: _ => false
  | '?' :: _ => true
  | _ => false

def branches (rules : Rules) (context : Context) (first : Context) : Parser (Node × Node) := do
  symbol "?"
  let consequence ← rules (.assignment first)
  symbol ":"
  let alternative ← rules (.assignment context)
  return (consequence, alternative)

def conditional (rules : Rules) (context : Context) : Parser Node := do
  let start ← here
  let test ← binaryExpression rules context
  if startsChoice (← ahead) then
    let found ← branches rules context .free <|> branches rules context ⟨true, false⟩
    nodeFrom .ternary start [test, found.1.inRole .consequence, found.2.inRole .alternative]
  else return test

/-- A value handed out by a generator. -/
def yielding (rules : Rules) (context : Context) : Parser Node := do
  let start ← here
  keyword "yield"
  let lineEnds ← lineEndsAhead
  if lineEnds then nodeFrom .unary start []
  else
    let _ ← optional? (symbol "*")
    let value ← optional? (rules (.assignment context))
    nodeFrom .unary start value.toList

def patternAssignment (rules : Rules) (context : Context) : Parser Node := do
  let start ← here
  let left ← rules .pattern
  symbolNotBefore "=" ['=', '>']
  let right ← rules (.assignment context)
  nodeFrom .assignment start [left, right]

def assignment (rules : Rules) (context : Context) : Parser Node :=
  yielding rules context <|> arrowFunction rules context <|>
  (do
    let start ← here
    let left ← conditional rules context
    match assignmentOperator? (← ahead) with
    | some operator =>
        symbol operator
        let right ← rules (.assignment context)
        nodeFrom .assignment start [left, right]
    | none => return left) <|>
  patternAssignment rules context

def expression (rules : Rules) (context : Context) : Parser Node := do
  let start ← here
  let first ← rules (.assignment context)
  let more ← many (do symbol ","; rules (.assignment context))
  if more.isEmpty then return first else nodeFrom .sequence start (first :: more)

end SelectorAudit.Markup.Grammar
