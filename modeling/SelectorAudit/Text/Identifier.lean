import SelectorAudit.Text.Blank

/-!
# Identifiers

A class or id name, as style sheets and markup have to agree on it: one or more letters, digits,
underscores and hyphens. One line feed after the name is let through as well, so `"a\n"` is an
identifier and `"a\n\n"` is not.
-/

namespace SelectorAudit.Text

set_option autoImplicit false

def isLetter (c : Char) : Bool :=
  ('a' ≤ c && c ≤ 'z') || ('A' ≤ c && c ≤ 'Z')

def isDigit (c : Char) : Bool :=
  '0' ≤ c && c ≤ '9'

/-- The characters an identifier is made of. -/
def isNameChar (c : Char) : Bool :=
  isLetter c || isDigit c || c == '_' || c == '-'

def isIdentifier (name : List Char) : Bool :=
  let rest := name.dropWhile isNameChar
  !(name.takeWhile isNameChar).isEmpty && (rest == [] || rest == ['\n'])

def staticTokens (text : List Char) : List String :=
  ((words text).filter isIdentifier).map String.ofList

end SelectorAudit.Text
