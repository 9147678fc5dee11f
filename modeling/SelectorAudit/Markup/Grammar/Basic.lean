import SelectorAudit.Markup.Cursor

/-!
# The grammar: goals and literals

The grammar of component modules is written as parsers that call each other through a goal, so that
every rule is a definition of its own; `Markup.Program` ties them together. Here are the goals and
the literals.
-/

namespace SelectorAudit.Markup.Grammar

set_option autoImplicit false

open Text

/-- Which language a module is written in, and how its faults are treated. -/
structure Dialect where
  /-- Whether an angle bracket starts an element; otherwise it starts a type assertion. -/
  elements : Bool
  lenient : Bool
  deriving DecidableEq, Repr

/-- What an expression may contain where it stands. -/
structure Context where
  membership : Bool
  resultType : Bool
  deriving DecidableEq, Repr

def Context.free : Context := ⟨true, true⟩

inductive Goal where
  | expression (context : Context)
  | assignment (context : Context)
  | operand
  | primary
  | classExpression
  | pattern
  | typeExpression
  | statement
  | element
  deriving DecidableEq, Repr

abbrev Rules := Goal → Parser Node

def Rules.expression (rules : Rules) : Parser Node := rules (.expression .free)

def Rules.assignment (rules : Rules) : Parser Node := rules (.assignment .free)

def isDigitOrGap (c : Char) : Bool := isDigit c || c == '_'

def exponentLength (text : List Char) : Nat :=
  match text with
  | mark :: rest =>
      if mark == 'e' || mark == 'E' then
        let sign := if rest.head?.any fun c => c == '+' || c == '-' then 1 else 0
        let digits := ((rest.drop sign).takeWhile isDigitOrGap).length
        if digits == 0 then 0 else 1 + sign + digits
      else 0
  | [] => 0

def decimalLength (text : List Char) : Nat :=
  let whole := (text.takeWhile isDigitOrGap).length
  let fraction :=
    match text.drop whole with
    | '.' :: rest =>
        let digits := (rest.takeWhile isDigitOrGap).length
        if whole == 0 && digits == 0 then 0 else 1 + digits
    | _ => 0
  let size := whole + fraction
  if size == 0 then 0
  else
    let power := exponentLength (text.drop size)
    let big := if (text.drop (size + power)).head? == some 'n' then 1 else 0
    size + power + big

def numberLength (text : List Char) : Nat :=
  match text with
  | '0' :: base :: rest =>
      if "xXbBoO".toList.contains base then 2 + (rest.takeWhile isWordPart).length
      else decimalLength text
  | _ => decimalLength text

def numberLiteral : Parser Node := do
  let start ← here
  let size := numberLength start.rest
  ensure (0 < size)
  set (start.move size)
  nodeFrom .number start []

def quotedLength (mark : Char) : List Char → Option Nat
  | '\\' :: '\r' :: '\n' :: rest => (quotedLength mark rest).map (· + 3)
  | '\\' :: _ :: rest => (quotedLength mark rest).map (· + 2)
  | c :: rest =>
      if c == mark then some 1
      else if c == '\n' || c == '\r' then none
      else (quotedLength mark rest).map (· + 1)
  | [] => none

def stringLiteral : Parser Node := do
  let start ← here
  match start.rest with
  | mark :: rest =>
      ensure (isQuote mark)
      match quotedLength mark rest with
      | some size =>
          set (start.move (size + 1))
          nodeFrom .string start []
      | none => fail
  | [] => fail

/-- The length of a regular expression behind its opening slash, closing slash included; `inSet`
tells whether the text stands between brackets. -/
def regexLength (inSet : Bool) : List Char → Option Nat
  | '\\' :: c :: rest => if c == '\n' then none else (regexLength inSet rest).map (· + 2)
  | c :: rest =>
      if c == '\n' || c == '\r' then none
      else if c == '/' && !inSet then some 1
      else (regexLength ((inSet || c == '[') && c != ']') rest).map (· + 1)
  | [] => none

def regexLiteral : Parser Node := do
  let start ← here
  match start.rest with
  | '/' :: rest =>
      match regexLength false rest with
      | some size =>
          let flags := (rest.drop size).takeWhile isLetter
          set (start.move (1 + size + flags.length))
          nodeFrom .regex start []
      | none => fail
  | _ => fail

def templateTail (inner : Parser Node) : Nat → Parser (List Node)
  | 0 => fail
  | bound + 1 => fun cursor =>
      match cursor.rest with
      | [] => none
      | '\\' :: _ => templateTail inner bound (cursor.move 2)
      | '$' :: '{' :: _ =>
          (do
            set (cursor.move 2)
            let value ← inner
            symbol "\x7d"
            let substitution ← nodeFrom .templateSubstitution cursor [value]
            return substitution :: (← templateTail inner bound) : Parser (List Node)) cursor
      | c :: _ =>
          if c == backtick then some ([], cursor.move 1)
          else templateTail inner bound (cursor.move 1)

def templateOf (inner : Parser Node) : Parser Node := do
  let start ← here
  ensure (start.rest.head? == some backtick)
  set (start.move 1)
  let substitutions ← templateTail inner (start.rest.length + 1)
  nodeFrom .templateString start substitutions

def templateLiteral (rules : Rules) : Parser Node :=
  templateOf rules.expression

end SelectorAudit.Markup.Grammar
