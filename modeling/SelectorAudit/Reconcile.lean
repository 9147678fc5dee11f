import SelectorAudit.Selector
import SelectorAudit.Text.Order

/-!
# Declared selectors against used names

A selector is unused when no component uses its name. Usage is pooled over all components and does
not tell classes from ids: one use of a name covers the class and the id of that name.
-/

namespace SelectorAudit

set_option autoImplicit false

/-- The names in use, once each. -/
def usedNames (used : List UsedName) : List String :=
  Text.distinct (used.map UsedName.name)

/-- The selectors whose name nobody uses, in the order given. -/
def findUnused (selectors : List Selector) (used : List UsedName) : List Selector :=
  selectors.filter fun selector => !used.any fun use => use.name == selector.name

def Selector.sameName (first second : Selector) : Bool :=
  first.kind == second.kind && first.name == second.name

/-- The first selector of each kind and name, in the order given. -/
def distinctUnused : List Selector → List Selector
  | [] => []
  | first :: rest =>
      first :: (distinctUnused rest).filter fun other => !other.sameName first

end SelectorAudit
