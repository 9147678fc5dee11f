/-!
# Searching in texts

Tests for what stands at the start of a text, and for what stands anywhere in it.
-/

namespace SelectorAudit.Text

set_option autoImplicit false

def anyTail (test : List Char → Bool) : List Char → Bool
  | [] => test []
  | c :: rest => test (c :: rest) || anyTail test rest

def behindWord? (word text : List Char) : Option (List Char) :=
  if word.isPrefixOf text then some (text.drop word.length) else none

end SelectorAudit.Text
