import SelectorAudit.Text.Hex

/-!
# Escapes in selector names

A backslash in a name stands before one to six hexadecimal digits, which spell a code point and may
be ended by one blank, or before any other character, which then stands for itself.
-/

namespace SelectorAudit.Stylesheet

set_option autoImplicit false

open Text

/-- The character with a given code point; zero, the surrogates and what lies beyond the last code
point give the replacement character. -/
def codePoint (n : Nat) : Char :=
  if n == 0 || (0xd800 ≤ n && n ≤ 0xdfff) || 0x10ffff < n then replacementChar else Char.ofNat n

/-- Where a decoder stands between two characters of a name. -/
inductive EscapeState where
  | plain
  | backslash
  /-- Behind the hexadecimal digits, last first, of an escape that may go on. -/
  | digits (seen : List Char)
  deriving DecidableEq, Repr

def EscapeState.flush : EscapeState → List Char
  | .plain => []
  | .backslash => ['\\']
  | .digits seen => [codePoint (hexNumber seen.reverse)]

def endsEscape (c : Char) : Bool :=
  c == ' ' || c == '\t' || c == '\n'

def EscapeState.step (state : EscapeState) (c : Char) : List Char × EscapeState :=
  let outside : List Char × EscapeState := if c == '\\' then ([], .backslash) else ([c], .plain)
  match state with
  | .plain => outside
  | .backslash => if isHexDigit c then ([], .digits [c]) else ([c], .plain)
  | .digits seen =>
      if isHexDigit c && seen.length < 6 then ([], .digits (c :: seen))
      else if endsEscape c then (state.flush, .plain)
      else (state.flush ++ outside.1, outside.2)

def unescapeFrom (state : EscapeState) : List Char → List Char
  | [] => state.flush
  | c :: rest => (state.step c).1 ++ unescapeFrom (state.step c).2 rest

/-- A name with its escapes resolved. -/
def unescape (name : List Char) : List Char :=
  unescapeFrom .plain name

end SelectorAudit.Stylesheet
