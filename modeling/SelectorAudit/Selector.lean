/-!
# Selectors and used names

What a style sheet declares, a class or id name at the position of its rule, and what a component
uses, a bare name in a file.
-/

namespace SelectorAudit

set_option autoImplicit false

inductive SelectorKind where
  | classSelector
  | idSelector
  deriving DecidableEq, Repr

namespace SelectorKind

/-- The character that stands before a name of this kind in a selector. -/
def sigil : SelectorKind → String
  | .classSelector => "."
  | .idSelector => "#"

def word : SelectorKind → String
  | .classSelector => "class"
  | .idSelector => "id"

def label : SelectorKind → String
  | .classSelector => "class"
  | .idSelector => "ID"

end SelectorKind

/-- A name that a selector refers to, without its place. -/
structure SelectorRef where
  kind : SelectorKind
  name : String
  deriving DecidableEq, Repr

/-- A class or id declared by a rule of a style sheet, with the line and column where the rule
starts. Both count from one; what comes from elsewhere may give any numbers. -/
structure Selector where
  kind : SelectorKind
  name : String
  file : String
  line : Int
  column : Int
  deriving DecidableEq, Repr

namespace Selector

/-- The name with its sigil. -/
def text (selector : Selector) : String :=
  selector.kind.sigil ++ selector.name

def summary (selector : Selector) : String :=
  selector.text ++ " (" ++ selector.file ++ ":" ++ toString selector.line ++ ":" ++
    toString selector.column ++ ")"

end Selector

/-- A class or id name met in the markup of a component. -/
structure UsedName where
  name : String
  file : String
  deriving DecidableEq, Repr

end SelectorAudit
