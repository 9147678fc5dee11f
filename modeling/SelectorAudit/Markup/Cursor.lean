import SelectorAudit.Markup.Tree
import SelectorAudit.Text.Identifier

/-!
# Reading component modules

A cursor marks a place in the text of a module; a parser moves it forward or fails. Blanks and
comments are skipped in front of a token and never behind one, so a parser that needs the raw text,
as between two tags, finds it untouched. The comments that were skipped are kept.
-/

namespace SelectorAudit.Markup.Grammar

set_option autoImplicit false

open Text

structure Cursor where
  offset : Nat
  rest : List Char
  comments : List Node

abbrev Parser (α : Type) := StateT Cursor Option α

def fail {α : Type} : Parser α := fun _ => none

/-- Moves over some characters. -/
def Cursor.move (cursor : Cursor) (count : Nat) : Cursor :=
  { cursor with offset := cursor.offset + count, rest := cursor.rest.drop count }

/-- The blanks of component modules: white space other than the information separators, and the
invisible marks. -/
def isModuleBlank (c : Char) : Bool :=
  (isBlank c && !(0x1c ≤ c.toNat && c.toNat ≤ 0x1f)) || c.toNat == 0xfeff || c.toNat == 0x2060 ||
    c.toNat == 0x200b

/-- What is being skipped. -/
inductive TriviaMode where
  | gap
  /-- A comment to the end of the line; its start and its text, last character first. -/
  | line (start : Nat) (text : List Char)
  /-- A bracketed comment: the place before it, its text, and how many characters of its opening or
  closing mark are behind. -/
  | block (before : Cursor) (text : List Char) (opened star : Bool)

def commentNode (start : Nat) (reversed : List Char) : Node :=
  .node .comment none start reversed.reverse []

/-- The place behind the blanks and comments ahead. A bracketed comment without an end is not
skipped. -/
def skipFrom (mode : TriviaMode) (offset : Nat) (comments : List Node) : List Char → Cursor
  | [] =>
      match mode with
      | .gap => ⟨offset, [], comments⟩
      | .line start text => ⟨offset, [], commentNode start text :: comments⟩
      | .block before _ _ _ => before
  | c :: rest =>
      match mode with
      | .gap =>
          if isModuleBlank c then skipFrom .gap (offset + 1) comments rest
          else if c == '/' && rest.head? == some '/' then
            skipFrom (.line offset [c]) (offset + 1) comments rest
          else if c == '/' && rest.head? == some '*' then
            skipFrom (.block ⟨offset, c :: rest, comments⟩ [c] false false) (offset + 1) comments rest
          else ⟨offset, c :: rest, comments⟩
      | .line start text =>
          if c == '\n' || c == '\r' || c.toNat == 0x2028 || c.toNat == 0x2029 then
            skipFrom .gap (offset + 1) (commentNode start text :: comments) rest
          else skipFrom (.line start (c :: text)) (offset + 1) comments rest
      | .block before text opened star =>
          if star && c == '/' then
            skipFrom .gap (offset + 1) (commentNode before.offset (c :: text) :: comments) rest
          else
            skipFrom (.block before (c :: text) true (opened && c == '*')) (offset + 1) comments rest

/-- The place of the next token. -/
def Cursor.skip (cursor : Cursor) : Cursor :=
  skipFrom .gap cursor.offset cursor.comments cursor.rest

/-- Moves to the next token and gives its place. -/
def here : Parser Cursor := fun cursor =>
  let next := cursor.skip
  some (next, next)

/-- The text of the next token and what follows it, without moving. -/
def ahead : Parser (List Char) := fun cursor =>
  some (cursor.skip.rest, cursor)

def lineEndsAhead : Parser Bool := fun cursor =>
  let gap := cursor.rest.take (cursor.skip.offset - cursor.offset)
  some (gap.any fun c => c == '\n' || c == '\r' || c.toNat == 0x2028 || c.toNat == 0x2029, cursor)

def nodeFrom (kind : Kind) (start : Cursor) (children : List Node) : Parser Node := fun cursor =>
  some (.node kind none start.offset (start.rest.take (cursor.offset - start.offset)) children,
    cursor)

def ensure (condition : Bool) : Parser Unit :=
  if condition then pure () else fail

def lookahead {α : Type} (parser : Parser α) : Parser α := fun cursor =>
  (parser cursor).map fun found => (found.1, cursor)

def notAhead {α : Type} (parser : Parser α) : Parser Unit := fun cursor =>
  match parser cursor with
  | some _ => none
  | none => some ((), cursor)

def optional? {α : Type} (parser : Parser α) : Parser (Option α) := fun cursor =>
  match parser cursor with
  | some (value, next) => some (some value, next)
  | none => some (none, cursor)

/-- Runs a parser as long as it succeeds and moves; the number bounds the repetitions. -/
def manyUpTo {α : Type} (parser : Parser α) : Nat → Parser (List α)
  | 0 => pure []
  | bound + 1 => fun cursor =>
      match parser cursor with
      | none => some ([], cursor)
      | some (value, next) =>
          if next.offset ≤ cursor.offset then some ([value], next)
          else (manyUpTo parser bound next).map fun found => (value :: found.1, found.2)

def many {α : Type} (parser : Parser α) : Parser (List α) := fun cursor =>
  manyUpTo parser (cursor.rest.length + 1) cursor

def symbol (mark : String) : Parser Unit := fun cursor =>
  let next := cursor.skip
  if mark.toList.isPrefixOf next.rest then some ((), next.move mark.length) else none

/-- A punctuation mark that is not the start of a longer one that goes on with these characters. -/
def symbolNotBefore (mark : String) (followers : List Char) : Parser Unit := do
  symbol mark
  let cursor ← get
  ensure (!cursor.rest.head?.any followers.contains)

/-- Items up to a closing mark, divided by commas; a comma may stand before the closing mark. -/
def itemsUpTo {α : Type} (item : Parser α) (closing : String) : Nat → Parser (List α)
  | 0 => fail
  | bound + 1 =>
      (do symbol closing; pure []) <|>
      (do
        let first ← item
        (do symbol ","; return first :: (← itemsUpTo item closing bound)) <|>
          (do symbol closing; pure [first]))

def items {α : Type} (item : Parser α) (closing : String) : Parser (List α) := fun cursor =>
  itemsUpTo item closing (cursor.rest.length + 1) cursor

def sparseItemsUpTo {α : Type} (item : Parser α) (closing : String) : Nat → Parser (List α)
  | 0 => fail
  | bound + 1 =>
      (do symbol closing; pure []) <|>
      (do symbol ","; sparseItemsUpTo item closing bound) <|>
      (do
        let first ← item
        (do symbol ","; return first :: (← sparseItemsUpTo item closing bound)) <|>
          (do symbol closing; pure [first]))

def sparseItems {α : Type} (item : Parser α) (closing : String) : Parser (List α) := fun cursor =>
  sparseItemsUpTo item closing (cursor.rest.length + 1) cursor

def separated {α : Type} (item : Parser α) (mark : Parser Unit) : Parser (List α) := do
  let first ← item
  return first :: (← many (do mark; item))

def isWordStart (c : Char) : Bool :=
  if c.toNat < 128 then isLetter c || c == '_' || c == '$' || c.toNat == 127
  else !isModuleBlank c

def isWordPart (c : Char) : Bool :=
  isWordStart c || isDigit c

def leadingWord (text : List Char) : List Char :=
  if text.head?.any isWordStart then text.takeWhile isWordPart else []

/-- The next token if it is a word, without moving; empty otherwise. -/
def wordAhead : Parser String := do
  return String.ofList (leadingWord (← ahead))

/-- Any word. -/
def word : Parser String := fun cursor =>
  let next := cursor.skip
  let found := leadingWord next.rest
  if found.isEmpty then none else some (String.ofList found, next.move found.length)

def keyword (wanted : String) : Parser Unit := do
  let found ← word
  ensure (found == wanted)

def keywordIn (wanted : List String) : Parser Unit := do
  let found ← word
  ensure (wanted.contains found)

def reservedWords : List String :=
  ["break", "case", "catch", "class", "const", "continue", "debugger", "default", "delete", "do",
    "else", "enum", "export", "extends", "false", "finally", "for", "function", "if", "import", "in",
    "instanceof", "new", "null", "return", "super", "switch", "this", "throw", "true", "try",
    "typeof", "var", "void", "while", "with"]

/-- A name that is not a reserved word. -/
def name : Parser Node := do
  let start ← here
  let found ← word
  ensure (!reservedWords.contains found)
  nodeFrom .identifier start []

/-- A property name behind a dot: any word, or a private name. -/
def propertyNode : Parser Node := do
  let start ← here
  match start.rest with
  | '#' :: _ =>
      symbol "#"
      let _ ← word
      nodeFrom .privateIdentifier start []
  | _ =>
      let _ ← word
      nodeFrom .propertyIdentifier start []

/-- The end of a statement: a semicolon, or nothing before a closing brace, the end of a line or of
the text. -/
def statementEnd : Parser Unit :=
  symbol ";" <|>
  (do
    let next ← ahead
    let lineEnds ← lineEndsAhead
    ensure (next.isEmpty || next.head? == some '}' || lineEnds))

end SelectorAudit.Markup.Grammar
