import SelectorAudit.Markup.Grammar.Expression
import SelectorAudit.Text.Hex

/-!
# The grammar: elements

An element is a tag that closes itself, or an opening tag, children and a closing tag; the names of
the two need not agree. Between the tags stands raw text, in which a brace opens an expression, an
ampersand starts a character reference, and a closing brace or angle bracket is out of place.
-/

namespace SelectorAudit.Markup.Grammar

set_option autoImplicit false

open Text

def isTagNameChar (c : Char) : Bool := isWordPart c || c == '-'

/-- A name with hyphens. -/
def tagWord (kind : Kind) : Parser Node := do
  let start ← here
  ensure (start.rest.head?.any isWordStart)
  set (start.move (start.rest.takeWhile isTagNameChar).length)
  nodeFrom kind start []

def attributeName : Parser Node := do
  let start ← here
  let first ← tagWord .propertyIdentifier
  match ← optional? (do symbol ":"; tagWord .propertyIdentifier) with
  | some second => nodeFrom .jsxNamespaceName start [first, second]
  | none => return first

def tagName : Parser Node := do
  let start ← here
  let first ← tagWord .identifier
  match ← optional? (do symbol ":"; tagWord .identifier) with
  | some second => nodeFrom .jsxNamespaceName start [first, second]
  | none =>
      let members ← many (do symbol "."; tagWord .propertyIdentifier)
      if members.isEmpty then return first else nodeFrom .member start (first :: members)

/-- The length of a character reference behind its ampersand, closing semicolon included. -/
def referenceLength? (text : List Char) : Option Nat :=
  let numeric (offset most : Nat) (digits : List Char) : Option (Nat × List Char) :=
    if 1 ≤ digits.length && digits.length ≤ most then
      some (offset + digits.length, text.drop (offset + digits.length))
    else none
  let body :=
    match text with
    | '#' :: c :: rest =>
        if c == 'x' || c == 'X' then numeric 2 6 (rest.takeWhile isHexDigit)
        else numeric 1 5 ((c :: rest).takeWhile isDigit)
    | _ => numeric 0 30 (text.takeWhile isLetter)
  match body with
  | some (size, ';' :: _) => some (size + 1)
  | _ => none

/-- The length of an attribute's text behind its opening mark, closing mark included. An ampersand
starts a character reference before a letter or a number sign; before anything else it takes the
next character along, be it the closing mark. -/
def attributeLength? (mark : Char) : List Char → Option Nat
  | [] => none
  | '&' :: next :: rest =>
      if isLetter next || next == '#' then
        if (referenceLength? (next :: rest)).isSome then
          (attributeLength? mark (next :: rest)).map (· + 1)
        else none
      else (attributeLength? mark rest).map (· + 2)
  | c :: rest => if c == mark then some 1 else (attributeLength? mark rest).map (· + 1)

def plainLength? (mark : Char) (text : List Char) : Option Nat :=
  let size := (text.takeWhile fun c => c != mark).length
  if size < text.length then some (size + 1) else none

/-- The string of an attribute, which has no escapes and may run over several lines. -/
def attributeString (dialect : Dialect) : Parser Node := do
  let start ← here
  match start.rest with
  | mark :: rest =>
      ensure (isQuote mark)
      match (if dialect.lenient then plainLength? mark rest else attributeLength? mark rest) with
      | some size =>
          set (start.move (size + 1))
          nodeFrom .string start []
      | none => fail
  | [] => fail

def bracedExpression (rules : Rules) : Parser Node := do
  let start ← here
  symbol "\x7b"
  let inner ← optional? (spread rules <|> rules.expression)
  symbol "\x7d"
  nodeFrom .jsxExpression start inner.toList

def attributeValue (rules : Rules) (dialect : Dialect) : Parser Node := do
  let next ← ahead
  match next with
  | '{' :: _ => bracedExpression rules
  | '<' :: _ => rules .element
  | _ => attributeString dialect

def tagAttribute (rules : Rules) (dialect : Dialect) : Parser Node := do
  let start ← here
  match start.rest with
  | '{' :: _ => bracedExpression rules
  | _ =>
      let named ← attributeName
      let value ← optional? (do symbol "="; attributeValue rules dialect)
      nodeFrom .jsxAttribute start ([named] ++ value.toList)

def tagContents (rules : Rules) (dialect : Dialect) : Parser (List Node) := do
  let named ← tagName
  let _ ← optional? (typeArguments rules)
  let attributes ← many (tagAttribute rules dialect)
  return named :: attributes

def isMarkupText (c : Char) : Bool :=
  !(c == '{' || c == '}' || c == '<' || c == '>' || c == '&')

def elementChild (rules : Rules) (dialect : Dialect) : Parser Node := fun cursor =>
  let taken (size : Nat) : Option (Node × Cursor) :=
    nodeFrom .jsxText cursor [] (cursor.move size)
  match cursor.rest with
  | [] => none
  | '<' :: _ =>
      if (cursor.move 1).skip.rest.head? == some '/' then none else rules .element cursor
  | '{' :: _ => bracedExpression rules cursor
  | '&' :: rest =>
      match referenceLength? rest with
      | some size => taken (size + 1)
      | none => if dialect.lenient then taken 1 else none
  | c :: _ =>
      if isMarkupText c then taken (cursor.rest.takeWhile isMarkupText).length
      else if dialect.lenient then taken 1
      else none

def closingTag : Parser Node := do
  let start ← here
  symbol "<"
  symbol "/"
  let named ← optional? tagName
  symbol ">"
  nodeFrom .jsxTag start named.toList

def element (rules : Rules) (dialect : Dialect) : Parser Node := do
  let start ← here
  symbol "<"
  let contents ← (do let _ ← lookahead (symbol ">"); return []) <|> tagContents rules dialect
  (do
    symbol "/>"
    nodeFrom .jsxElement start contents) <|>
  (do
    symbol ">"
    let opening ← nodeFrom .jsxTag start contents
    let children ← many (elementChild rules dialect)
    let closing ← if dialect.lenient then optional? closingTag else some <$> closingTag
    nodeFrom .jsxElement start ([opening] ++ children ++ closing.toList))

end SelectorAudit.Markup.Grammar
