import SelectorAudit.Json.Value
import SelectorAudit.Text.Hex
import SelectorAudit.Text.Identifier
import SelectorAudit.Text.Position

/-!
# Reading JSON

A text is read from left to right, and the first place where it cannot go on gives the fault: what
was expected there and at which offset. Beyond the standard the three names `NaN`, `Infinity` and
`-Infinity` are numbers, and of a key given twice the last value counts.

Each list or object takes a level of the stack while it is read, and so does what is called on the
way. A text that is nested too deep uses the stack up.
-/

namespace SelectorAudit.Json

set_option autoImplicit false

open Text

/-- What is wrong at a place in a text. -/
inductive Expected where
  | noMark
  | value
  | propertyName
  | colon
  | comma
  | closedString
  | noControl
  | escape
  | unicodeEscape
  | endOfText
  deriving DecidableEq, Repr

def Expected.message : Expected → String
  | .noMark => "Unexpected UTF-8 BOM (decode using utf-8-sig)"
  | .value => "Expecting value"
  | .propertyName => "Expecting property name enclosed in double quotes"
  | .colon => "Expecting ':' delimiter"
  | .comma => "Expecting ',' delimiter"
  | .closedString => "Unterminated string starting at"
  | .noControl => "Invalid control character at"
  | .escape => "Invalid \\escape"
  | .unicodeEscape => "Invalid \\uXXXX escape"
  | .endOfText => "Extra data"

/-- What the stack had no level left for. -/
inductive Overflow where
  | list
  | object
  | call
  | frame
  deriving DecidableEq, Repr

def Overflow.message : Overflow → String
  | .list => "maximum recursion depth exceeded while decoding a JSON array from a unicode string"
  | .object => "maximum recursion depth exceeded while decoding a JSON object from a unicode string"
  | .call => "maximum recursion depth exceeded while calling a Python object"
  | .frame => "maximum recursion depth exceeded"

inductive Fault where
  | syntaxAt (expected : Expected) (offset : Nat)
  | tooLong (digits : Nat)
  | exhausted (overflow : Overflow)
  deriving DecidableEq, Repr

def integerDigits : Nat := 4300

def Fault.message (text : List Char) : Fault → String
  | .syntaxAt expected offset =>
      let position := Position.start.advanceOver (text.take offset)
      expected.message ++ ": line " ++ toString position.line ++ " column " ++
        toString position.column ++ " (char " ++ toString offset ++ ")"
  | .tooLong digits =>
      "Exceeds the limit (" ++ toString integerDigits ++
        " digits) for integer string conversion: value has " ++ toString digits ++
        " digits; use sys.set_int_max_str_digits() to increase the limit"
  | .exhausted overflow => overflow.message

/-- The levels of the stack that it takes to report a fault where it is found. -/
def reportDepth : Nat := 3

/-- What comes of a fault where `room` levels of the stack are left. A missing value is reported at
the top of the text, and a number that is too long without a call. -/
def Fault.raised (room : Nat) : Fault → Fault
  | .syntaxAt .value offset => .syntaxAt .value offset
  | .syntaxAt expected offset =>
      match room with
      | 0 => .exhausted .call
      | 1 => .exhausted .frame
      | 2 => .exhausted .call
      | _ => .syntaxAt expected offset
  | fault => fault

/-- A place in a text: its offset and what stands behind it. -/
structure Place where
  offset : Nat
  rest : List Char
  deriving DecidableEq, Repr

abbrev Reading (α : Type) := Except Fault (α × Place)

namespace Place

def fail {α : Type} (place : Place) (room : Nat) (expected : Expected) : Reading α :=
  .error ((Fault.syntaxAt expected place.offset).raised room)

def noValue {α : Type} (place : Place) : Reading α :=
  .error (.syntaxAt .value place.offset)

def drop (place : Place) (count : Nat) : Place :=
  ⟨place.offset + count, place.rest.drop count⟩

def isGap (c : Char) : Bool :=
  c == ' ' || c == '\t' || c == '\n' || c == '\r'

def skipGap (place : Place) : Place :=
  place.drop (place.rest.takeWhile isGap).length

end Place

/-- The character that a letter behind a backslash stands for. -/
def simpleEscape : Char → Option Char
  | '\x22' => some '\x22'
  | '\\' => some '\\'
  | '/' => some '/'
  | 'b' => some '\x08'
  | 'f' => some '\x0c'
  | 'n' => some '\n'
  | 'r' => some '\r'
  | 't' => some '\t'
  | _ => none

def fourHexDigits? (text : List Char) : Option Nat :=
  let digits := text.take 4
  if digits.length == 4 && digits.all isHexDigit then
    some (hexNumber digits)
  else none

def isHighSurrogate (n : Nat) : Bool := 0xd800 ≤ n && n ≤ 0xdbff
def isLowSurrogate (n : Nat) : Bool := 0xdc00 ≤ n && n ≤ 0xdfff

def pairedHalf? (text : List Char) : Option (Option Nat) :=
  match text with
  | '\\' :: 'u' :: rest => if rest.length ≤ 4 then none else some (fourHexDigits? rest)
  | _ => none

/-- An escape that starts with the letter `u` at `place`: its character and how many characters it
takes behind that letter. A half of a pair that stands alone becomes the replacement character. -/
def unicodeEscape (place : Place) : Except Fault (Char × Nat) :=
  let digits := place.rest.drop 1
  let fault : Except Fault (Char × Nat) := .error (.syntaxAt .unicodeEscape place.offset)
  if digits.length ≤ 4 then fault
  else
    match fourHexDigits? digits with
    | none => fault
    | some high =>
        match if isHighSurrogate high then pairedHalf? (digits.drop 4) else none with
        | some none => .error (.syntaxAt .unicodeEscape (place.offset + 6))
        | some (some low) =>
            if isLowSurrogate low then
              .ok (Char.ofNat (0x10000 + (high - 0xd800) * 0x400 + (low - 0xdc00)), 10)
            else .ok (replacementChar, 4)
        | none =>
            .ok (if isHighSurrogate high || isLowSurrogate high then replacementChar
              else Char.ofNat high, 4)

/-- Reads a string behind its opening mark, which stands at `start`. The first `skip` characters
belong to an escape that has been read. -/
def readString (start : Nat) (read : List Char) (offset skip : Nat) :
    List Char → Reading String
  | [] => .error (.syntaxAt .closedString start)
  | c :: rest =>
      match skip with
      | skip + 1 => readString start read (offset + 1) skip rest
      | 0 =>
          if c == '\x22' then .ok (String.ofList read.reverse, ⟨offset + 1, rest⟩)
          else if c == '\\' then
            match rest with
            | [] => .error (.syntaxAt .closedString start)
            | letter :: _ =>
                if letter == 'u' then
                  match unicodeEscape ⟨offset + 1, rest⟩ with
                  | .error fault => .error fault
                  | .ok (value, size) =>
                      readString start (value :: read) (offset + 1) (size + 1) rest
                else
                  match simpleEscape letter with
                  | some value => readString start (value :: read) (offset + 1) 1 rest
                  | none => .error (.syntaxAt .escape offset)
          else if c.toNat < 32 then .error (.syntaxAt .noControl offset)
          else readString start (c :: read) (offset + 1) 0 rest

def namedValues : List (String × Value) :=
  [("null", .null), ("true", .bool true), ("false", .bool false),
    ("NaN", .real .notANumber), ("Infinity", .real (.infinite false)),
    ("-Infinity", .real (.infinite true))]

def decimalValue (digits : List Char) : Nat :=
  digits.foldl (fun n c => n * 10 + (c.toNat - 48)) 0

def leadingDigits (text : List Char) : List Char :=
  text.takeWhile isDigit

def fractionPart (text : List Char) : List Char :=
  match text with
  | '.' :: rest => leadingDigits rest
  | _ => []

/-- The exponent of a number, its sign and its digits, and how many characters it takes. -/
def exponentPart (text : List Char) : Option (Int × Nat) :=
  match text with
  | mark :: rest =>
      if mark == 'e' || mark == 'E' then
        let sign := rest.head?.any fun c => c == '-' || c == '+'
        let digits := leadingDigits (if sign then rest.drop 1 else rest)
        if digits.isEmpty then none
        else
          let size := decimalValue digits
          some (if rest.head? == some '-' then -(size : Int) else size,
            1 + (if sign then 1 else 0) + digits.length)
      else none
  | [] => none

def readNumber (place : Place) : Reading Value :=
  let negative := place.rest.head? == some '-'
  let unsigned := if negative then place.drop 1 else place
  let whole :=
    if unsigned.rest.head? == some '0' then ['0'] else leadingDigits unsigned.rest
  if whole.isEmpty then place.noValue
  else
    let behindWhole := unsigned.drop whole.length
    let fraction := fractionPart behindWhole.rest
    let behindFraction :=
      if fraction.isEmpty then behindWhole else behindWhole.drop (fraction.length + 1)
    let exponent := exponentPart behindFraction.rest
    let behind := match exponent with
      | some (_, size) => behindFraction.drop size
      | none => behindFraction
    if fraction.isEmpty && exponent.isNone then
      if integerDigits < whole.length then .error (.tooLong whole.length)
      else
        let size : Int := decimalValue whole
        .ok (.integer (if negative then -size else size), behind)
    else
      let power := (exponent.map Prod.fst).getD 0 - fraction.length
      .ok (.real (.ofDecimal negative (decimalValue (whole ++ fraction)) power), behind)

/-- A named value or a number. The name of a number is looked up by a call. -/
def readScalar (room : Nat) (place : Place) : Reading Value :=
  match namedValues.find? fun entry => entry.1.toList.isPrefixOf place.rest with
  | some (name, value) =>
      match room, value with
      | 0, .real _ => .error (.exhausted .call)
      | _, value => .ok (value, place.drop name.length)
  | none => readNumber place

def readText (room : Nat) (place : Place) (rest : List Char) : Reading String :=
  (readString place.offset [] (place.offset + 1) 0 rest).mapError (Fault.raised room)

mutual

/-- Reads a value; the first argument bounds the work, the second the nesting. -/
def readValue : Nat → Nat → Place → Reading Value
  | 0, _, place => place.noValue
  | fuel + 1, room, place =>
      match place.rest with
      | '\x22' :: rest => (readText room place rest).map fun read => (.text read.1, read.2)
      | '{' :: _ =>
          match room with
          | 0 => .error (.exhausted .object)
          | room + 1 =>
              let inside := (place.drop 1).skipGap
              if inside.rest.head? == some '}' then .ok (.object [], inside.drop 1)
              else readMembers fuel room [] inside
      | '[' :: _ =>
          match room with
          | 0 => .error (.exhausted .list)
          | room + 1 =>
              let inside := (place.drop 1).skipGap
              if inside.rest.head? == some ']' then .ok (.list [], inside.drop 1)
              else readItems fuel room [] inside
      | _ => readScalar room place

def readItems : Nat → Nat → List Value → Place → Reading Value
  | 0, _, _, place => place.noValue
  | fuel + 1, room, read, place =>
      match readValue fuel room place with
      | .error fault => .error fault
      | .ok (item, behind) =>
          let next := behind.skipGap
          match next.rest with
          | ']' :: _ => .ok (.list (item :: read).reverse, next.drop 1)
          | ',' :: _ => readItems fuel room (item :: read) (next.drop 1).skipGap
          | _ => next.fail room .comma

def readMembers : Nat → Nat → List (String × Value) → Place → Reading Value
  | 0, _, _, place => place.noValue
  | fuel + 1, room, read, place =>
      match place.rest with
      | '\x22' :: rest =>
          match readText room place rest with
          | .error fault => .error fault
          | .ok (key, behindKey) =>
              let colon := behindKey.skipGap
              match colon.rest with
              | ':' :: _ =>
                  match readValue fuel room (colon.drop 1).skipGap with
                  | .error fault => .error fault
                  | .ok (value, behind) =>
                      let next := behind.skipGap
                      let entries := setKey read key value
                      match next.rest with
                      | '}' :: _ => .ok (.object entries, next.drop 1)
                      | ',' :: _ => readMembers fuel room entries (next.drop 1).skipGap
                      | _ => next.fail room .comma
              | _ => colon.fail room .colon
      | _ => place.fail room .propertyName

end

/-- The value that a text spells. Lists and objects may be nested `spare` levels deep with room left
to report a fault, and three levels deeper without. -/
def read (spare : Nat) (text : List Char) : Except Fault Value :=
  if text.head? == some (Char.ofNat 0xfeff) then .error (.syntaxAt .noMark 0)
  else
    match readValue (2 * text.length + 2) (spare + reportDepth) (Place.skipGap ⟨0, text⟩) with
    | .error fault => .error fault
    | .ok (value, behind) =>
        let next := behind.skipGap
        if next.rest.isEmpty then .ok value else .error (.syntaxAt .endOfText next.offset)

end SelectorAudit.Json
