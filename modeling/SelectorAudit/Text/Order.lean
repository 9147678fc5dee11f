/-!
# The order of texts

Texts are ordered by their code points. `sortDistinct` gives the members of a list once each and in
ascending order.
-/

namespace SelectorAudit.Text

set_option autoImplicit false

def sort (texts : List String) : List String :=
  texts.mergeSort fun a b => decide (a ≤ b)

def distinct {α : Type} [BEq α] : List α → List α
  | [] => []
  | first :: rest => first :: (distinct rest).filter fun other => !(other == first)

def sortDistinct (texts : List String) : List String :=
  sort (distinct texts)

end SelectorAudit.Text
