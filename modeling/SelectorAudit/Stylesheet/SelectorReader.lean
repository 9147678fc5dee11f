import SelectorAudit.Selector
import SelectorAudit.Stylesheet.Escape
import SelectorAudit.Stylesheet.SelectorToken
import SelectorAudit.Text.Position
import SelectorAudit.Text.Quoted

/-!
# Reading selectors

A selector list is a comma-separated sequence of runs of components: class, id, type, universal,
nesting and placeholder selectors, attribute tests, pseudo-classes and combinators. The argument of
a pseudo-class is empty, a string or again a selector list, so the reader is a finite automaton with
a counter for the open arguments. Which terminals it looks for depends on where it stands; only when
none of those matches does it look at the others, to name the token that is out of place.

The result lists the class and id names of all depths in the order in which they are written.
-/

namespace SelectorAudit.Stylesheet

set_option autoImplicit false

open Text

inductive NameRole where
  | reference (kind : SelectorKind)
  | placeholder
  | pseudo
  deriving DecidableEq, Repr

/-- Where the reader stands. -/
inductive Expectation where
  | component
  | afterComponent
  | name (role : NameRole)
  | afterPseudo
  | argument
  | argumentEnd
  | attributeName
  | attributeOperator
  | attributeValue
  | attributeFlag
  | attributeEnd
  deriving DecidableEq, Repr

def componentTerminals : List Terminal :=
  [.name, .combinator, .doubleColon, .colon, .dot, .hash, .star, .ampersand, .percent, .openBracket]

def Expectation.terminals : Expectation → List Terminal
  | .component => componentTerminals
  | .afterComponent => componentTerminals ++ [.closeParen, .comma]
  | .name _ => [.name]
  | .afterPseudo => componentTerminals ++ [.openParen, .closeParen, .comma]
  | .argument => componentTerminals ++ [.string, .closeParen]
  | .argumentEnd => [.closeParen]
  | .attributeName => [.name]
  | .attributeOperator => [.attributeOperator, .closeBracket]
  | .attributeValue => [.name, .string]
  | .attributeFlag => [.name, .closeBracket]
  | .attributeEnd => [.closeBracket]

structure ReaderState where
  expectation : Expectation
  depth : Nat
  deriving DecidableEq, Repr

structure Effect where
  state : ReaderState
  reference : Option SelectorRef
  deriving DecidableEq, Repr

/-- A step that adds no name and keeps the depth. -/
def ReaderState.to (state : ReaderState) (expectation : Expectation) : Option Effect :=
  some ⟨{ state with expectation := expectation }, none⟩

def ReaderState.component (state : ReaderState) (terminal : Terminal) : Option Effect :=
  match terminal with
  | .name | .combinator | .star | .ampersand => state.to .afterComponent
  | .dot => state.to (.name (.reference .classSelector))
  | .hash => state.to (.name (.reference .idSelector))
  | .percent => state.to (.name .placeholder)
  | .colon | .doubleColon => state.to (.name .pseudo)
  | .openBracket => state.to .attributeName
  | _ => none

def ReaderState.follow (state : ReaderState) (terminal : Terminal) : Option Effect :=
  match terminal with
  | .comma => state.to .component
  | .closeParen =>
      match state.depth with
      | 0 => none
      | depth + 1 => some ⟨⟨.afterComponent, depth⟩, none⟩
  | _ => state.component terminal

def ReaderState.step (state : ReaderState) (token : Token) : Option Effect :=
  match state.expectation, token.terminal with
  | .component, terminal => state.component terminal
  | .afterComponent, terminal => state.follow terminal
  | .name (.reference kind), .name =>
      some ⟨{ state with expectation := .afterComponent },
        some ⟨kind, String.ofList (unescape token.lexeme)⟩⟩
  | .name .placeholder, .name => state.to .afterComponent
  | .name .pseudo, .name => state.to .afterPseudo
  | .afterPseudo, .openParen => some ⟨⟨.argument, state.depth + 1⟩, none⟩
  | .afterPseudo, terminal => state.follow terminal
  | .argument, .string => state.to .argumentEnd
  | .argument, .closeParen => state.follow .closeParen
  | .argument, terminal => state.component terminal
  | .argumentEnd, .closeParen => state.follow .closeParen
  | .attributeName, .name => state.to .attributeOperator
  | .attributeOperator, .attributeOperator => state.to .attributeValue
  | .attributeOperator, .closeBracket => state.to .afterComponent
  | .attributeValue, .name | .attributeValue, .string => state.to .attributeFlag
  | .attributeFlag, .name => state.to .attributeEnd
  | .attributeFlag, .closeBracket => state.to .afterComponent
  | .attributeEnd, .closeBracket => state.to .afterComponent
  | _, _ => none

/-- A selector list may end behind a component, when no argument is open. -/
def ReaderState.mayEnd (state : ReaderState) : Bool :=
  state.depth == 0 &&
    (state.expectation == .afterComponent || state.expectation == .afterPseudo)

/-- Why a text is no selector list. -/
inductive SelectorFault where
  | unmatched (c : Char) (position : Position)
  | misplaced (token : Token) (position : Position)
  /-- The text ends too early; the position is that of the last token. -/
  | truncated (position : Position)
  deriving DecidableEq, Repr

namespace SelectorFault

def position : SelectorFault → Position
  | .unmatched _ position => position
  | .misplaced _ position => position
  | .truncated position => position

def unexpectedMessage (label text : String) (position : Position) : String :=
  "Unexpected token Token(" ++ quoted label ++ ", " ++ quoted text ++ ") at line " ++
    toString position.line ++ ", column " ++ toString position.column ++ "."

def message : SelectorFault → String
  | .unmatched c position =>
      "No terminal matches '" ++ String.ofList [c] ++ "' in the current parser context, at line " ++
        toString position.line ++ " col " ++ toString position.column
  | .misplaced token position =>
      unexpectedMessage token.terminal.label (String.ofList token.lexeme) position
  | .truncated position => unexpectedMessage "$END" "" position

end SelectorFault

def ReaderState.next (state : ReaderState) (position : Position) (c : Char) (rest : List Char) :
    Except SelectorFault (Token × Effect) :=
  match firstToken state.expectation.terminals (c :: rest) with
  | some token =>
      match state.step token with
      | some effect => .ok (token, effect)
      | none => .error (.misplaced token position)
  | none =>
      match firstToken Terminal.all (c :: rest) with
      | some token => .error (.misplaced token position)
      | none => .error (.unmatched c position)

/-- Reads on from `position`. The first `skip` characters belong to the token read last, which
started at `last`. -/
def readFrom (state : ReaderState) (last position : Position) (skip : Nat) :
    List Char → Except SelectorFault (List SelectorRef)
  | [] => if state.mayEnd then .ok [] else .error (.truncated last)
  | c :: rest =>
      match skip with
      | skip + 1 => readFrom state last (position.advance c) skip rest
      | 0 =>
          if isTokenGap c then readFrom state last (position.advance c) 0 rest
          else
            match state.next position c rest with
            | .error fault => .error fault
            | .ok (token, effect) =>
                (readFrom effect.state position (position.advance c) (token.lexeme.length - 1)
                  rest).map (effect.reference.toList ++ ·)

/-- The class and id names of a selector list, in the order in which they are written. -/
def readSelectors (text : List Char) : Except SelectorFault (List SelectorRef) :=
  readFrom ⟨.component, 0⟩ Position.start Position.start 0 text

end SelectorAudit.Stylesheet
