import SelectorAudit.Text.Blank
import SelectorAudit.Text.LowerCase
import SelectorAudit.Text.Position

/-!
# Rules of a style sheet

A style sheet is read one character at a time, with one character of lookahead. The reader keeps
track of blocks, comments, quoted strings and parentheses, and reports every style rule: the text
before its block and the position where that text starts. Blocks of grouping at-rules and of style
rules may hold further rules; the blocks of all other at-rules are sealed, and nothing in them is
reported.

In preprocessor syntax two slashes start a comment that runs to the end of the line, outside
parentheses, and the braces of an interpolation are no block.
-/

namespace SelectorAudit.Stylesheet

set_option autoImplicit false

open Text

/-- A style rule: the text before its block, and where that text starts. -/
structure Rule where
  prelude : List Char
  position : Position
  deriving DecidableEq, Repr

inductive Block where
  | rule
  | group
  | sealed
  deriving DecidableEq, Repr

def groupingAtRules : List String :=
  ["media", "supports", "document", "-moz-document", "layer", "container", "scope", "at-root",
    "starting-style"]

def atRuleName (prelude : List Char) : List Char :=
  lower (((words (prelude.drop 1)).headD []).takeWhile fun c => c != '(')

inductive CommentPhase where
  | opening
  | body
  | star
  deriving DecidableEq, Repr

/-- What the next character belongs to. -/
inductive ScanMode where
  | code
  | comment (start : Position) (phase : CommentPhase)
  | lineComment
  | interpolation
  /-- A string that `mark` ends, and whether the next character is escaped. -/
  | quoted (mark : Char) (escaped : Bool)
  deriving DecidableEq, Repr

structure ScanState where
  mode : ScanMode
  blocks : List Block
  /-- The text since the last block or statement ended, last character first. -/
  buffer : List Char
  start : Option Position
  depth : Nat
  deriving DecidableEq, Repr

namespace ScanState

def initial : ScanState := ⟨.code, [], [], none, 0⟩

/-- Forgets the text read so far, as at the end of a statement. -/
def clear (state : ScanState) : ScanState :=
  { state with buffer := [], start := none }

/-- Adds a character to the text and starts the text there if nothing else has. -/
def mark (state : ScanState) (position : Position) (c : Char) : ScanState :=
  { state with buffer := c :: state.buffer, start := some (state.start.getD position) }

/-- Adds a character of code to the text; a blank does not start it. -/
def push (state : ScanState) (position : Position) (c : Char) : ScanState :=
  if isBlank c then { state with buffer := c :: state.buffer } else state.mark position c

/-- The text before a block, without the blanks around it. -/
def prelude (state : ScanState) : List Char :=
  trim state.buffer.reverse

def opened (state : ScanState) : Block :=
  if state.blocks.head? == some .sealed then .sealed
  else if state.prelude.head? == some '@' then
    if groupingAtRules.contains (String.ofList (atRuleName state.prelude)) then .group else .sealed
  else .rule

def enter (state : ScanState) : ScanState :=
  { state.clear with blocks := state.opened :: state.blocks, depth := 0 }

/-- The style rule whose block an opening brace starts, if it starts one. -/
def rule? (state : ScanState) : Option Rule :=
  match state.opened, state.prelude, state.start with
  | .rule, c :: rest, some position => some ⟨c :: rest, position⟩
  | _, _, _ => none

end ScanState

/-- Why a style sheet cannot be divided into blocks. -/
inductive StructureFault where
  | unclosedComment (position : Position)
  | unexpectedBrace (position : Position)
  | unclosedBlock (position : Position)
  deriving DecidableEq, Repr

namespace StructureFault

def position : StructureFault → Position
  | .unclosedComment position => position
  | .unexpectedBrace position => position
  | .unclosedBlock position => position

def message : StructureFault → String
  | .unclosedComment _ => "Unclosed comment"
  | .unexpectedBrace _ => "Unexpected \x7d"
  | .unclosedBlock _ => "Unclosed block"

end StructureFault

/-- The effect of one character. -/
inductive ScanStep where
  | next (state : ScanState)
  | found (rule : Rule) (state : ScanState)
  | fault (reason : StructureFault)
  deriving DecidableEq, Repr

/-- The effect of a character of code that starts no comment, string or interpolation. -/
def ScanState.code (state : ScanState) (position : Position) (c : Char) : ScanStep :=
  if c == ';' && state.depth == 0 then .next state.clear
  else if c == '{' then
    match state.rule? with
    | some rule => .found rule state.enter
    | none => .next state.enter
  else if c == '}' then
    match state.blocks with
    | [] => .fault (.unexpectedBrace position)
    | _ :: blocks => .next { state.clear with blocks := blocks, depth := 0 }
  else
    let depth :=
      if c == '(' then state.depth + 1 else if c == ')' then state.depth - 1 else state.depth
    .next { state.push position c with depth := depth }

def ScanState.step (preprocessor : Bool) (state : ScanState) (position : Position) (c : Char)
    (next : Option Char) : ScanStep :=
  match state.mode with
  | .comment start .opening => .next { state with mode := .comment start .body }
  | .comment start .body =>
      .next { state with mode := .comment start (if c == '*' then .star else .body) }
  | .comment start .star =>
      if c == '/' then .next { state with mode := .code, buffer := ' ' :: state.buffer }
      else .next { state with mode := .comment start (if c == '*' then .star else .body) }
  | .lineComment =>
      if c == '\n' then { state with mode := .code }.code position c else .next state
  | .interpolation =>
      .next { state.mark position c with mode := if c == '}' then .code else .interpolation }
  | .quoted mark escaped =>
      let mode : ScanMode :=
        if escaped then .quoted mark false
        else if c == mark || c == '\n' then .code
        else .quoted mark (c == '\\')
      .next { state.mark position c with mode := mode }
  | .code =>
      if c == '/' && next == some '*' then
        .next { state with mode := .comment position .opening }
      else if preprocessor && state.depth == 0 && c == '/' && next == some '/' then
        .next { state with mode := .lineComment }
      else if preprocessor && (c == '#' || c == '@') && next == some '{' then
        .next { state.mark position c with mode := .interpolation }
      else if isQuote c then .next { state.mark position c with mode := .quoted c false }
      else state.code position c

def ScanState.finish (state : ScanState) (position : Position) : Option StructureFault :=
  match state.mode, state.blocks with
  | .comment start _, _ => some (.unclosedComment start)
  | _, [] => none
  | _, _ :: _ => some (.unclosedBlock position)

/-- The rules found up to the end of a style sheet or to the fault that stops the reader. -/
structure Scan where
  rules : List Rule
  fault : Option StructureFault
  deriving DecidableEq, Repr

def scanFrom (preprocessor : Bool) (state : ScanState) (position : Position) : List Char → Scan
  | [] => ⟨[], state.finish position⟩
  | c :: rest =>
      match state.step preprocessor position c rest.head? with
      | .next state => scanFrom preprocessor state (position.advance c) rest
      | .found rule state =>
          let scan := scanFrom preprocessor state (position.advance c) rest
          { scan with rules := rule :: scan.rules }
      | .fault reason => ⟨[], some reason⟩

/-- The style rules of a style sheet, outer ones before the ones they hold. -/
def scanRules (preprocessor : Bool) (source : List Char) : Scan :=
  scanFrom preprocessor .initial Position.start source

end SelectorAudit.Stylesheet
