import SelectorAudit.Json.Value

/-!
# Writing JSON

Two layouts: one line without blanks, and one entry to a line with an indentation of two. Characters
beyond ASCII are written as escapes, those beyond the basic plane as two.
-/

namespace SelectorAudit.Json

set_option autoImplicit false

def unicodeUnit (n : Nat) : List Char :=
  '\\' :: 'u' :: Text.hexDigits 4 n

def escapedChar (c : Char) : List Char :=
  if c == '\x22' then ['\\', '\x22']
  else if c == '\\' then ['\\', '\\']
  else if c == '\n' then ['\\', 'n']
  else if c == '\r' then ['\\', 'r']
  else if c == '\t' then ['\\', 't']
  else if c == '\x08' then ['\\', 'b']
  else if c == '\x0c' then ['\\', 'f']
  else if 32 ≤ c.toNat && c.toNat < 127 then [c]
  else if c.toNat == 127 then [c]
  else if c.toNat < 0x10000 then unicodeUnit c.toNat
  else
    let n := c.toNat - 0x10000
    unicodeUnit (0xd800 + n / 0x400) ++ unicodeUnit (0xdc00 + n % 0x400)

def escapedText (text : String) : String :=
  "\x22" ++ String.ofList (text.toList.flatMap escapedChar) ++ "\x22"

def scalarText : Value → String
  | .bool value => if value then "true" else "false"
  | .integer value => toString value
  | .real value =>
      match value with
      | .notANumber => "NaN"
      | .infinite negative => if negative then "-Infinity" else "Infinity"
      | .finite _ _ => value.render
  | .text value => escapedText value
  | _ => "null"

mutual

def Value.compact : Value → String
  | .list items => "[" ++ ",".intercalate (compactItems items) ++ "]"
  | .object entries => "\x7b" ++ ",".intercalate (compactEntries entries) ++ "\x7d"
  | value => scalarText value

def compactItems : List Value → List String
  | [] => []
  | item :: rest => item.compact :: compactItems rest

def compactEntries : List (String × Value) → List String
  | [] => []
  | (key, value) :: rest => (escapedText key ++ ":" ++ value.compact) :: compactEntries rest

end

def newLine (level : Nat) : String :=
  "\n" ++ String.ofList (List.replicate (2 * level) ' ')

def bracketed (opening closing : String) (level : Nat) (entries : List String) : String :=
  if entries.isEmpty then opening ++ closing
  else
    opening ++ newLine (level + 1) ++ ("," ++ newLine (level + 1)).intercalate entries ++
      newLine level ++ closing

mutual

def Value.indentedAt (level : Nat) : Value → String
  | .list items => bracketed "[" "]" level (indentedItems (level + 1) items)
  | .object entries => bracketed "\x7b" "\x7d" level (indentedEntries (level + 1) entries)
  | value => scalarText value

def indentedItems (level : Nat) : List Value → List String
  | [] => []
  | item :: rest => item.indentedAt level :: indentedItems level rest

def indentedEntries (level : Nat) : List (String × Value) → List String
  | [] => []
  | (key, value) :: rest =>
      (escapedText key ++ ": " ++ value.indentedAt level) :: indentedEntries level rest

end

def Value.indented (value : Value) : String :=
  value.indentedAt 0

end SelectorAudit.Json
