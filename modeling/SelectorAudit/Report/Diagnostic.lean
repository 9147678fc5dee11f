import SelectorAudit.Path
import SelectorAudit.Report.Tally
import SelectorAudit.Selector
import SelectorAudit.Text.Blank

/-!
# Diagnostics

What is shown to the host about an unused selector, and how selectors become diagnostics grouped by
style sheet.
-/

namespace SelectorAudit.Report

set_option autoImplicit false

inductive Severity where
  | error
  | warning
  | info
  deriving DecidableEq, Repr

def Severity.word : Severity → String
  | .error => "ERROR"
  | .warning => "WARNING"
  | .info => "INFO"

/-- A place in a text as editors count it, from zero. -/
structure Place where
  line : Nat
  character : Nat
  deriving DecidableEq, Repr

structure Range where
  first : Place
  last : Place
  deriving DecidableEq, Repr

structure Diagnostic where
  file : String
  /-- The span of the selector's text from the start of its rule. -/
  range : Range
  line : Int
  column : Int
  severity : Severity
  message : String
  related : String
  deriving DecidableEq, Repr

def diagnosticCode : String := "unused-selector"

def diagnosticSource : String := "deadcss"

/-- The first line of the message. -/
def Diagnostic.headline (diagnostic : Diagnostic) : String :=
  String.ofList (Text.firstLine diagnostic.message.toList)

def Diagnostic.summary (diagnostic : Diagnostic) : String :=
  diagnostic.file ++ ":" ++ toString diagnostic.line ++ ":" ++ toString diagnostic.column ++ ": " ++
    diagnostic.severity.word ++ " [" ++ diagnosticCode ++ "] " ++ diagnostic.headline

/-- A number of things. -/
def plural (count : Int) (noun : String) : String :=
  toString count ++ " " ++ noun ++ if count == 1 then "" else "s"

def unusedMessage (selector : Selector) (counts : ScanCounts) : String :=
  let label := selector.kind.label
  "\n".intercalate [
    "Unused CSS " ++ label ++ ": \"" ++ selector.text ++ "\"",
    "",
    "File: " ++ Path.baseName selector.file,
    "Line: " ++ toString selector.line ++ ", Column: " ++ toString selector.column,
    "",
    "Analysis summary:",
    "- Scanned " ++ plural (counts.scanned .stylesheet) "stylesheet",
    "- Checked " ++ plural (counts.scanned .jsx) "JSX component",
    "- Checked " ++ plural (counts.scanned .decorator) "decorated component",
    "",
    "The " ++ label ++ " \"" ++ selector.name ++ "\" is not referenced in any component file."]

/-- The diagnostic for an unused selector. Lines and columns below one fall on the first. -/
def toDiagnostic (counts : ScanCounts) (selector : Selector) : Diagnostic :=
  let line := (selector.line - 1).toNat
  let character := (selector.column - 1).toNat
  { file := selector.file
    range := ⟨⟨line, character⟩, ⟨line, character + selector.text.length⟩⟩
    line := selector.line
    column := selector.column
    severity := .warning
    message := unusedMessage selector counts
    related := "This CSS selector \"" ++ selector.text ++ "\" is not used in any component" }

abbrev Grouped := List (String × List Diagnostic)

/-- Adds a diagnostic to those of its file; a new file goes to the end. -/
def Grouped.add (diagnostic : Diagnostic) : Grouped → Grouped
  | [] => [(diagnostic.file, [diagnostic])]
  | entry :: rest =>
      if entry.1 == diagnostic.file then (entry.1, entry.2 ++ [diagnostic]) :: rest
      else entry :: Grouped.add diagnostic rest

/-- The diagnostics for unused selectors, by style sheet, in the order of first occurrence. -/
def project (unused : List Selector) (counts : ScanCounts) : Grouped :=
  unused.foldl (fun grouped selector => Grouped.add (toDiagnostic counts selector) grouped) []

end SelectorAudit.Report
