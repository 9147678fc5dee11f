/-!
# The journal of a run

Alongside their results the parts of an analysis leave lines in a journal, each with a level and the
part that wrote it.
-/

namespace SelectorAudit.Report

set_option autoImplicit false

inductive Level where
  | debug
  | info
  | warning
  | error
  deriving DecidableEq, Repr

def Level.word : Level → String
  | .debug => "DEBUG"
  | .info => "INFO"
  | .warning => "WARNING"
  | .error => "ERROR"

def Level.weight : Level → Nat
  | .debug => 0
  | .info => 1
  | .warning => 2
  | .error => 3

/-- The parts of an analysis that write to the journal. -/
inductive Author where
  | selectors
  | jsx
  | components
  | run
  deriving DecidableEq, Repr

/-- The channel under which a part's lines are shown. -/
def Author.channel : Author → String
  | .selectors => "deadcss.stylesheet.extractor"
  | .jsx => "deadcss.markup.jsx"
  | .components => "deadcss.markup.decorator"
  | .run => "deadcss.analysis.runner"

structure JournalLine where
  level : Level
  author : Author
  message : String
  deriving DecidableEq, Repr

def JournalLine.text (line : JournalLine) : String :=
  line.level.word ++ " " ++ line.author.channel ++ ": " ++ line.message

abbrev Journal := List JournalLine

def Journal.atLeast (journal : Journal) (level : Level) : Journal :=
  journal.filter fun line => level.weight ≤ line.level.weight

end SelectorAudit.Report
