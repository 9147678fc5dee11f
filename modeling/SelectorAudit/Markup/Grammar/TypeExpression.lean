import SelectorAudit.Markup.Grammar.Basic

/-!
# The grammar: types

Types hold neither elements nor classes, so a type becomes a single node. The rules follow the
structure of types from conditional types down to names and literals.
-/

namespace SelectorAudit.Markup.Grammar

set_option autoImplicit false

open Text

def Rules.skipType (rules : Rules) : Parser Unit := do
  let _ ← rules .typeExpression

def statedType (rules : Rules) : Parser Unit := do
  symbol ":"
  rules.skipType

def typeArguments (rules : Rules) : Parser Unit := do
  symbol "<"
  let _ ← items rules.skipType ">"

def typeParameter (rules : Rules) : Parser Unit := do
  let _ ← many (do
    keywordIn ["const", "in", "out"]
    let next ← wordAhead
    ensure (!next.isEmpty && next != "extends"))
  let _ ← word
  let _ ← optional? (do keyword "extends"; rules.skipType)
  let _ ← optional? (do symbolNotBefore "=" ['>', '=']; rules.skipType)

def typeParameters (rules : Rules) : Parser Unit := do
  symbol "<"
  let found ← items (typeParameter rules) ">"
  ensure (!found.isEmpty)

def memberName (rules : Rules) : Parser Node := do
  let start ← here
  match start.rest with
  | '[' :: _ =>
      symbol "["
      let inner ← rules.expression
      symbol "]"
      nodeFrom .computedName start [inner]
  | c :: _ =>
      if isQuote c then stringLiteral
      else if isDigit c || c == '.' then numberLiteral
      else propertyNode
  | [] => fail

def typeParameterItem (rules : Rules) : Parser Unit := do
  let _ ← optional? (symbol "...")
  let _ ← (do let _ ← rules .pattern) <|> keyword "this"
  let _ ← optional? (symbol "?")
  let _ ← optional? (statedType rules)

def signatureParameters (rules : Rules) : Parser Unit := do
  symbol "("
  let _ ← items (typeParameterItem rules) ")"

def resultType (rules : Rules) : Parser Unit :=
  (do
    keyword "asserts"
    let subject ← word
    ensure (subject != "is")
    let _ ← optional? (do keyword "is"; rules.skipType)) <|>
  (do
    let _ ← word
    keyword "is"
    rules.skipType) <|>
  rules.skipType

def statedResult (rules : Rules) : Parser Unit := do
  symbol ":"
  resultType rules

def typeMemberEnd : Parser Unit :=
  symbol "," <|> statementEnd

/-- The marks that make a member writable, read-only, optional or required. -/
def memberMark (word : String) : Parser Unit := do
  let _ ← optional? (symbol "+" <|> symbol "-")
  keyword word

def optionalMark : Parser Unit := do
  let _ ← optional? (symbol "+" <|> symbol "-")
  symbol "?"

/-- A member of an object type that stands for many: an index or a mapping. -/
def indexMember (rules : Rules) : Parser Unit := do
  let _ ← optional? (memberMark "readonly")
  symbol "["
  let _ ← word
  (statedType rules) <|>
    (do
      keyword "in"
      rules.skipType
      let _ ← optional? (do keyword "as"; rules.skipType))
  symbol "]"
  let _ ← optional? optionalMark
  let _ ← optional? (statedType rules)

def callMember (rules : Rules) : Parser Unit := do
  let _ ← optional? (do
    keyword "new"
    let next ← ahead
    ensure (next.head? == some '(' || next.head? == some '<'))
  let _ ← optional? (typeParameters rules)
  signatureParameters rules
  let _ ← optional? (statedResult rules)

def memberModifier (words : List String) : Parser Unit := do
  keywordIn words
  let next ← ahead
  ensure (next.head?.any fun c => !"(=;:?!\x7d<,)".toList.contains c)

/-- A property or a method. -/
def namedMember (rules : Rules) : Parser Unit := do
  let _ ← many (memberModifier
    ["readonly", "get", "set", "public", "private", "protected", "static", "override"])
  let _ ← memberName rules
  let _ ← optional? (symbol "?")
  let _ ← optional? (do
    let _ ← optional? (typeParameters rules)
    signatureParameters rules)
  let _ ← optional? (statedResult rules)

def typeMember (rules : Rules) : Parser Unit := do
  indexMember rules <|> callMember rules <|> namedMember rules
  typeMemberEnd

def typeMembers (rules : Rules) : Parser Unit := do
  symbol "\x7b"
  let _ ← many (typeMember rules <|> symbol ";" <|> symbol ",")
  symbol "\x7d"

def tupleItem (rules : Rules) : Parser Unit := do
  let _ ← optional? (symbol "...")
  (do
    let _ ← word
    let _ ← optional? (symbol "?")
    symbol ":"
    rules.skipType) <|> rules.skipType
  let _ ← optional? (symbol "?")

/-- Names divided by dots. -/
def qualifiedName : Parser Unit := do
  let _ ← word
  let _ ← many (do symbol "."; propertyNode)

def namedType (rules : Rules) : Parser Unit := do
  let first ← wordAhead
  ensure !(["extends", "is", "in", "as", "satisfies"].contains first)
  qualifiedName
  let lineEnds ← lineEndsAhead
  if lineEnds then pure ()
  else
    let _ ← optional? (typeArguments rules)

def importType (rules : Rules) : Parser Unit := do
  keyword "import"
  symbol "("
  let _ ← items rules.skipType ")"
  let _ ← many (do symbol "."; let _ ← word)
  let _ ← optional? (typeArguments rules)

def queryType (rules : Rules) : Parser Unit := do
  keyword "typeof"
  (importType rules) <|>
    (do
      qualifiedName
      let _ ← optional? (typeArguments rules))

def literalType (rules : Rules) : Parser Unit := do
  let next ← ahead
  match next with
  | '-' :: _ =>
      symbol "-"
      let _ ← numberLiteral
  | c :: _ =>
      if isQuote c then
        let _ ← stringLiteral
      else if c == backtick then
        let _ ← templateOf (rules .typeExpression)
      else
        let _ ← numberLiteral
  | [] => fail

def primaryType (rules : Rules) : Parser Unit := do
  let next ← ahead
  match next with
  | '(' :: _ =>
      symbol "("
      rules.skipType
      symbol ")"
  | '{' :: _ => typeMembers rules
  | '[' :: _ =>
      symbol "["
      let _ ← items (tupleItem rules) "]"
  | c :: _ =>
      if isWordStart c then queryType rules <|> importType rules <|> namedType rules
      else literalType rules
  | [] => fail

def typeBrackets (rules : Rules) : Parser Unit := do
  let lineEnds ← lineEndsAhead
  ensure (!lineEnds)
  symbol "["
  let _ ← optional? rules.skipType
  symbol "]"

def operatorType (rules : Rules) : Parser Unit := do
  let _ ← many (do
    keywordIn ["keyof", "unique", "readonly"]
    let next ← ahead
    ensure (next.head?.any fun c => isWordStart c || c == '(' || c == '[' || c == '{' || isQuote c))
  (do
    keyword "infer"
    let _ ← word
    let _ ← optional? (do
      keyword "extends"
      rules.skipType
      notAhead (symbol "?"))) <|>
    primaryType rules
  let _ ← many (typeBrackets rules)

def intersectionType (rules : Rules) : Parser Unit := do
  let _ ← optional? (symbolNotBefore "&" ['&', '='])
  let _ ← separated (operatorType rules) (symbolNotBefore "&" ['&', '='])

def unionType (rules : Rules) : Parser Unit := do
  let _ ← optional? (symbolNotBefore "|" ['|', '='])
  let _ ← separated (intersectionType rules) (symbolNotBefore "|" ['|', '='])

def functionType (rules : Rules) : Parser Unit := do
  let _ ← optional? (keyword "abstract")
  let _ ← optional? (keyword "new")
  let _ ← optional? (typeParameters rules)
  signatureParameters rules
  symbol "=>"
  resultType rules

/-- A type that depends on another. -/
def conditionalTail (rules : Rules) : Parser Unit := do
  keyword "extends"
  rules.skipType
  symbol "?"
  rules.skipType
  symbol ":"
  rules.skipType

def typeExpression (rules : Rules) : Parser Node := do
  let start ← here
  functionType rules <|>
    (do
      unionType rules
      let _ ← optional? (conditionalTail rules))
  nodeFrom .typeExpression start []

end SelectorAudit.Markup.Grammar
