import SelectorAudit.Markup.Grammar.Element
import SelectorAudit.Markup.Grammar.Statement

/-!
# Parsing component modules

The rules of the grammar, tied together up to a depth that no text exceeds, and the parser of whole
modules. A module that the grammar does not derive is read again leniently: statement by statement,
passing over a token wherever neither a statement nor markup starts. Its tree is marked as not
intact.
-/

namespace SelectorAudit.Markup

set_option autoImplicit false

open Grammar

namespace Grammar

/-- The rule for each goal, given the rules for the goals inside it. -/
def rule (dialect : Dialect) (rules : Rules) : Rules
  | .expression context => expression rules context
  | .assignment context => assignment rules context
  | .operand => operand rules
  | .primary => primary rules dialect
  | .classExpression => classExpression rules
  | .pattern => pattern rules
  | .typeExpression => typeExpression rules
  | .statement => statement rules
  | .element => element rules dialect

def rulesUpTo (dialect : Dialect) : Nat → Rules
  | 0 => fun _ => fail
  | depth + 1 => fun goal => rule dialect (rulesUpTo dialect depth) goal

/-- A depth that no text of a given length exceeds: between two goals that do not move there are at
most a handful. -/
def depthFor (source : List Char) : Nat :=
  10 * source.length + 100

def interpreterLine (source : List Char) : Nat :=
  match source with
  | '#' :: '!' :: _ => (source.takeWhile fun c => c != '\n').length
  | _ => 0

def startOf (source : List Char) : Cursor :=
  Cursor.move ⟨0, source, []⟩ (interpreterLine source)

/-- A module whose statements reach to its end. -/
def program (rules : Rules) : Parser Node := do
  let start ← get
  let statements ← many (rules .statement)
  let finish ← here
  ensure finish.rest.isEmpty
  nodeFrom .program start statements

/-- How many characters the next token takes, where it belongs to no statement. -/
def tokenLength (text : List Char) : Nat :=
  match text with
  | c :: rest =>
      if isWordStart c then (leadingWord text).length
      else if Text.isQuote c then ((quotedLength c rest).getD 0) + 1
      else 1
  | [] => 0

def passToken : Parser Node := do
  let start ← here
  ensure (!start.rest.isEmpty)
  set (start.move (tokenLength start.rest))
  nodeFrom .broken start []

def looseMarkup (rules : Rules) (dialect : Dialect) : Parser Node := do
  ensure dialect.elements
  rules .element <|> tagAttribute rules dialect

/-- The statements of a module that is not well formed, with the markup and tokens between them. -/
def salvage (rules : Rules) (dialect : Dialect) : Parser Node := do
  let start ← get
  let parts ← many (rules .statement <|> looseMarkup rules dialect <|> passToken)
  nodeFrom .program start parts

end Grammar

mutual

def Node.withComment (comment : Node) : Node → Node
  | .node kind role start text children =>
      .node kind role start text (commentAmong comment children)

def commentAmong (comment : Node) : List Node → List Node
  | [] => [comment]
  | child :: rest =>
      if comment.start < child.start then comment :: child :: rest
      else if comment.start < child.stop then Node.withComment comment child :: rest
      else child :: commentAmong comment rest

end

/-- Runs a parser over a whole module and puts the comments into the tree. -/
def runParser (parser : Parser Node) (source : List Char) : Option Node :=
  (parser (startOf source)).map fun found =>
    found.2.comments.foldr (fun comment root => Node.withComment comment root) found.1

/-- Whether every character of a text may stand in a well-formed module. -/
def isWritable (source : List Char) : Bool :=
  source.all fun c => c.toNat != 0

def strictTree? (elements : Bool) (source : List Char) : Option Node :=
  runParser (program (rulesUpTo ⟨elements, false⟩ (depthFor source))) source

def salvagedTree? (elements : Bool) (source : List Char) : Option Node :=
  let dialect : Dialect := ⟨elements, true⟩
  runParser (salvage (rulesUpTo dialect (depthFor source)) dialect) source

/-- The syntax tree of a module; `elements` tells whether angle brackets start elements. -/
def parseModule (elements : Bool) (source : List Char) : ModuleTree :=
  match strictTree? elements source with
  | some root => ⟨root, isWritable source⟩
  | none =>
      ⟨(salvagedTree? elements source).getD (.node .program none 0 source []), false⟩

end SelectorAudit.Markup
