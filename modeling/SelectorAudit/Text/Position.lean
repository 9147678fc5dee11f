/-!
# Positions in a text

A position is a line and a column, both counted from one; only a line feed starts a new line.
-/

namespace SelectorAudit.Text

set_option autoImplicit false

structure Position where
  line : Nat
  column : Nat
  deriving DecidableEq, Repr

namespace Position

/-- Where a text starts. -/
def start : Position := ⟨1, 1⟩

def advance (position : Position) (c : Char) : Position :=
  if c == '\n' then ⟨position.line + 1, 1⟩ else ⟨position.line, position.column + 1⟩

def advanceOver (position : Position) (text : List Char) : Position :=
  text.foldl advance position

@[simp] theorem advanceOver_nil (position : Position) : position.advanceOver [] = position := rfl

@[simp] theorem advanceOver_cons (position : Position) (c : Char) (text : List Char) :
    position.advanceOver (c :: text) = (position.advance c).advanceOver text := rfl

theorem advanceOver_append (position : Position) (first second : List Char) :
    position.advanceOver (first ++ second) = (position.advanceOver first).advanceOver second := by
  simp [advanceOver]

end Position

end SelectorAudit.Text
