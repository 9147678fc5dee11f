import SelectorAudit.Stylesheet.SelectorReader

/-!
# Syntax trees of selector lists

The grammar of selector lists as data: what a name, a string and each kind of component are, the
tokens a tree is written with, and the class and id names it holds at all depths. A tree says
nothing about blanks; `Layout` puts them between the tokens, and `Spelled` says which texts a
reader may take for a given sequence of tokens.
-/

namespace SelectorAudit.Stylesheet

set_option autoImplicit false

open Text

inductive NameUnits : List Char → Prop where
  | none : NameUnits []
  | plain {c : Char} {rest : List Char} :
      isNameChar c = true → NameUnits rest → NameUnits (c :: rest)
  | escaped {c : Char} {rest : List Char} :
      isEscapable c = true → NameUnits rest → NameUnits ('\\' :: c :: rest)

structure Name where
  text : List Char
  units : NameUnits text
  nonempty : text ≠ []

inductive StringBody (mark : Char) : List Char → Prop where
  | none : StringBody mark []
  | plain {c : Char} {rest : List Char} :
      c ≠ mark → c ≠ '\\' → c ≠ '\n' → StringBody mark rest → StringBody mark (c :: rest)
  | escaped {c : Char} {rest : List Char} :
      c ≠ '\n' → StringBody mark rest → StringBody mark ('\\' :: c :: rest)

structure StringLiteral where
  mark : Char
  body : List Char
  quotes : isQuote mark = true
  closed : StringBody mark body

def StringLiteral.text (literal : StringLiteral) : List Char :=
  literal.mark :: (literal.body ++ [literal.mark])

inductive Combinator where
  | child
  | nextSibling
  | laterSibling
  | column

def Combinator.text : Combinator → List Char
  | .child => ['>']
  | .nextSibling => ['+']
  | .laterSibling => ['~']
  | .column => ['|', '|']

inductive AttributeOperator where
  | equals
  | includes
  | dashed
  | starts
  | ends
  | contains

def AttributeOperator.text : AttributeOperator → List Char
  | .equals => ['=']
  | .includes => ['~', '=']
  | .dashed => ['|', '=']
  | .starts => ['^', '=']
  | .ends => ['$', '=']
  | .contains => ['*', '=']

inductive AttributeValue where
  | name (name : Name)
  | string (literal : StringLiteral)

structure AttributeTest where
  operator : AttributeOperator
  value : AttributeValue
  flag : Option Name

inductive PseudoMark where
  | single
  | double

mutual

inductive SelectorPart where
  | reference (kind : SelectorKind) (name : Name)
  | element (name : Name)
  | universal
  | nesting
  | placeholder (name : Name)
  | attributed (name : Name) (test : Option AttributeTest)
  | pseudo (mark : PseudoMark) (name : Name) (argument : PseudoArgument)
  | combinator (which : Combinator)

inductive PseudoArgument where
  | absent
  | empty
  | string (literal : StringLiteral)
  | selectors (tree : SelectorTree)

/-- A run of components. -/
inductive ComplexSelector where
  | single (part : SelectorPart)
  | cons (part : SelectorPart) (rest : ComplexSelector)

/-- Runs of components with commas between them. -/
inductive SelectorTree where
  | single (selector : ComplexSelector)
  | cons (selector : ComplexSelector) (rest : SelectorTree)

end

/-! The tokens of a tree. -/

def Name.token (name : Name) : Token := ⟨.name, name.text⟩

def StringLiteral.token (literal : StringLiteral) : Token := ⟨.string, literal.text⟩

def AttributeValue.token : AttributeValue → Token
  | .name given => given.token
  | .string literal => literal.token

def AttributeTest.tokens (test : AttributeTest) : List Token :=
  ⟨.attributeOperator, test.operator.text⟩ :: test.value.token ::
    (test.flag.map Name.token).toList

def PseudoMark.token : PseudoMark → Token
  | .single => ⟨.colon, [':']⟩
  | .double => ⟨.doubleColon, [':', ':']⟩

def sigilToken : SelectorKind → Token
  | .classSelector => ⟨.dot, ['.']⟩
  | .idSelector => ⟨.hash, ['#']⟩

def openBracket : Token := ⟨.openBracket, ['[']⟩
def closeBracket : Token := ⟨.closeBracket, [']']⟩
def openParen : Token := ⟨.openParen, ['(']⟩
def closeParen : Token := ⟨.closeParen, [')']⟩
def comma : Token := ⟨.comma, [',']⟩

mutual

def SelectorPart.tokens : SelectorPart → List Token
  | .reference kind name => [sigilToken kind, name.token]
  | .element name => [name.token]
  | .universal => [⟨.star, ['*']⟩]
  | .nesting => [⟨.ampersand, ['&']⟩]
  | .placeholder name => [⟨.percent, ['%']⟩, name.token]
  | .attributed name test =>
      openBracket :: name.token :: (test.elim [] AttributeTest.tokens ++ [closeBracket])
  | .pseudo mark name argument => mark.token :: name.token :: argument.tokens
  | .combinator which => [⟨.combinator, which.text⟩]

def PseudoArgument.tokens : PseudoArgument → List Token
  | .absent => []
  | .empty => [openParen, closeParen]
  | .string literal => [openParen, literal.token, closeParen]
  | .selectors tree => openParen :: (tree.tokens ++ [closeParen])

def ComplexSelector.tokens : ComplexSelector → List Token
  | .single part => part.tokens
  | .cons part rest => part.tokens ++ rest.tokens

def SelectorTree.tokens : SelectorTree → List Token
  | .single selector => selector.tokens
  | .cons selector rest => selector.tokens ++ comma :: rest.tokens

end

/-! The class and id names of a tree, in the order in which they are written. -/

mutual

def SelectorPart.references : SelectorPart → List SelectorRef
  | .reference kind name => [⟨kind, String.ofList (unescape name.text)⟩]
  | .pseudo _ _ argument => argument.references
  | _ => []

def PseudoArgument.references : PseudoArgument → List SelectorRef
  | .selectors tree => tree.references
  | _ => []

def ComplexSelector.references : ComplexSelector → List SelectorRef
  | .single part => part.references
  | .cons part rest => part.references ++ rest.references

def SelectorTree.references : SelectorTree → List SelectorRef
  | .single selector => selector.references
  | .cons selector rest => selector.references ++ rest.references

end

/-- Blanks between two tokens, possibly none. -/
structure Gap where
  text : List Char
  blank : ∀ c ∈ text, isTokenGap c = true

/-- A sequence of tokens, each with the gap behind it, and the gap before the first. -/
structure Layout where
  lead : Gap
  pieces : List (Token × Gap)

namespace Layout

def tokens (layout : Layout) : List Token :=
  layout.pieces.map Prod.fst

def text (layout : Layout) : List Char :=
  layout.lead.text ++ layout.pieces.flatMap fun piece => piece.1.lexeme ++ piece.2.text

/-- At least one blank stands between any two tokens. -/
def Apart (layout : Layout) : Prop :=
  ∀ piece ∈ layout.pieces.dropLast, piece.2.text ≠ []

end Layout

inductive Token.Legal : Token → Prop where
  | name (name : Name) : Legal name.token
  | string (literal : StringLiteral) : Legal literal.token
  | combinator (which : Combinator) : Legal ⟨.combinator, which.text⟩
  | attributeOperator (operator : AttributeOperator) : Legal ⟨.attributeOperator, operator.text⟩
  | pseudoMark (mark : PseudoMark) : Legal mark.token
  | sigil (kind : SelectorKind) : Legal (sigilToken kind)
  | star : Legal ⟨.star, ['*']⟩
  | ampersand : Legal ⟨.ampersand, ['&']⟩
  | percent : Legal ⟨.percent, ['%']⟩
  | openBracket : Legal openBracket
  | closeBracket : Legal closeBracket
  | openParen : Legal openParen
  | closeParen : Legal closeParen
  | comma : Legal comma

/-- A token ends where the text behind it does not carry it on: a name is not followed by more of a
name, nor a colon by a second one. -/
def Token.EndsAt (token : Token) (rest : List Char) : Prop :=
  match token.terminal with
  | .name => nameLexeme rest = []
  | .colon => rest.head? ≠ some ':'
  | _ => True

inductive Spelled : List Token → List Char → Prop where
  | done : Spelled [] []
  | gap {c : Char} {tokens : List Token} {text : List Char} :
      isTokenGap c = true → Spelled tokens text → Spelled tokens (c :: text)
  | token {token : Token} {tokens : List Token} {rest : List Char} :
      token.EndsAt rest → Spelled tokens rest → Spelled (token :: tokens) (token.lexeme ++ rest)

end SelectorAudit.Stylesheet
