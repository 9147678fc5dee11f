import SelectorAudit.Text.Blank

/-!
# Splitting a rule's prelude

The text before the block of a rule is split at the commas that stand outside parentheses, brackets
and quotation marks. Pieces are trimmed, and empty ones are dropped.
-/

namespace SelectorAudit.Stylesheet

set_option autoImplicit false

open Text

/-- Where the splitter stands between two characters. -/
structure SplitState where
  depth : Nat
  mark : Option Char
  escaped : Bool
  deriving DecidableEq, Repr

def SplitState.start : SplitState := ⟨0, none, false⟩

/-- Whether a comma that stands here separates two selectors. -/
def SplitState.atTop (state : SplitState) : Bool :=
  state.depth == 0 && state.mark.isNone

def SplitState.step (state : SplitState) (c : Char) : SplitState :=
  match state.mark with
  | some mark =>
      if state.escaped then { state with escaped := false }
      else if c == '\\' then { state with escaped := true }
      else if c == mark then { state with mark := none }
      else state
  | none =>
      if isQuote c then { state with mark := some c }
      else if c == '(' || c == '[' then { state with depth := state.depth + 1 }
      else if c == ')' || c == ']' then { state with depth := state.depth - 1 }
      else state

/-- The pieces of a text, where `current` holds, last character first, the piece under way. -/
def piecesFrom (state : SplitState) (current : List Char) : List Char → List (List Char)
  | [] => [current.reverse]
  | c :: rest =>
      if c == ',' && state.atTop then current.reverse :: piecesFrom state [] rest
      else piecesFrom (state.step c) (c :: current) rest

/-- The selectors of a prelude. -/
def splitSelectors (prelude : List Char) : List (List Char) :=
  ((piecesFrom .start [] prelude).map trim).filter fun piece => !piece.isEmpty

end SelectorAudit.Stylesheet
