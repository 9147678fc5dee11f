import SelectorAudit.Text.Identifier

/-!
# Tokens of a selector

The terminals that selectors are written with, and which stretch of text each of them matches. Where
two match at the same place, `Terminal.all` gives the order in which they are tried.
-/

namespace SelectorAudit.Stylesheet

set_option autoImplicit false

open Text

inductive Terminal where
  | name
  | string
  | combinator
  | attributeOperator
  | doubleColon
  | colon
  | dot
  | hash
  | star
  | ampersand
  | percent
  | openBracket
  | closeBracket
  | openParen
  | closeParen
  | comma
  deriving DecidableEq, Repr

def Terminal.label : Terminal → String
  | .name => "NAME"
  | .string => "STRING"
  | .combinator => "COMBINATOR"
  | .attributeOperator => "ATTR_OP"
  | .doubleColon => "__ANON_0"
  | .colon => "COLON"
  | .dot => "DOT"
  | .hash => "HASH"
  | .star => "STAR"
  | .ampersand => "AMPERSAND"
  | .percent => "PERCENT"
  | .openBracket => "LSQB"
  | .closeBracket => "RSQB"
  | .openParen => "LPAR"
  | .closeParen => "RPAR"
  | .comma => "COMMA"

def Terminal.all : List Terminal :=
  [.name, .string, .combinator, .attributeOperator, .doubleColon, .colon, .dot, .hash, .star,
    .ampersand, .percent, .openBracket, .closeBracket, .openParen, .closeParen, .comma]

def isTokenGap (c : Char) : Bool :=
  c == ' ' || c == '\t' || c == '\x0c' || c == '\r' || c == '\n'

/-- A backslash may stand before every character but these. -/
def isEscapable (c : Char) : Bool :=
  !(c == '\r' || c == '\n' || c == '\x0c')

/-- The longest run of name characters and escaped characters at the start of a text. -/
def nameLexeme : List Char → List Char
  | '\\' :: c :: rest => if isEscapable c then '\\' :: c :: nameLexeme rest else []
  | c :: rest => if isNameChar c then c :: nameLexeme rest else []
  | [] => []

def stringTail (mark : Char) : List Char → Option (List Char)
  | '\\' :: c :: rest =>
      if c == '\n' then none else (stringTail mark rest).map fun tail => '\\' :: c :: tail
  | c :: rest =>
      if c == mark then some [c]
      else if c == '\n' || c == '\\' then none
      else (stringTail mark rest).map fun tail => c :: tail
  | [] => none

/-- The text that a terminal matches at the start of a text; it is never empty. -/
def Terminal.lexeme? (terminal : Terminal) (text : List Char) : Option (List Char) :=
  match terminal, text with
  | .name, _ => if (nameLexeme text).isEmpty then none else some (nameLexeme text)
  | .string, c :: rest =>
      if isQuote c then (stringTail c rest).map fun tail => c :: tail else none
  | .combinator, '|' :: '|' :: _ => some ['|', '|']
  | .combinator, c :: _ => if c == '>' || c == '+' || c == '~' then some [c] else none
  | .attributeOperator, '=' :: _ => some ['=']
  | .attributeOperator, c :: '=' :: _ =>
      if c == '~' || c == '|' || c == '^' || c == '$' || c == '*' then some [c, '='] else none
  | .doubleColon, ':' :: ':' :: _ => some [':', ':']
  | .colon, ':' :: _ => some [':']
  | .dot, '.' :: _ => some ['.']
  | .hash, '#' :: _ => some ['#']
  | .star, '*' :: _ => some ['*']
  | .ampersand, '&' :: _ => some ['&']
  | .percent, '%' :: _ => some ['%']
  | .openBracket, '[' :: _ => some ['[']
  | .closeBracket, ']' :: _ => some [']']
  | .openParen, '(' :: _ => some ['(']
  | .closeParen, ')' :: _ => some [')']
  | .comma, ',' :: _ => some [',']
  | _, _ => none

structure Token where
  terminal : Terminal
  lexeme : List Char
  deriving DecidableEq, Repr

def firstToken (terminals : List Terminal) (text : List Char) : Option Token :=
  terminals.findSome? fun terminal => (terminal.lexeme? text).map (Token.mk terminal)

end SelectorAudit.Stylesheet
