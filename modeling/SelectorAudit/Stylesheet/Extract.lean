import SelectorAudit.Path
import SelectorAudit.Report.ErrorLog
import SelectorAudit.Report.Journal
import SelectorAudit.Stylesheet.Rule
import SelectorAudit.Stylesheet.SelectorList
import SelectorAudit.Stylesheet.SelectorReader
import SelectorAudit.Text.Search

/-!
# The selectors of a style sheet

From the text of a style sheet to the class and id selectors it declares, one for each name in each
rule, at the position where the rule starts. A selector that cannot be read is reported and skipped;
a text that shows no sign of style sheet syntax, or whose blocks do not match, is rejected whole.
-/

namespace SelectorAudit.Stylesheet

set_option autoImplicit false

open Text Report

/-- An opening brace with a closing brace somewhere behind it. -/
def startsBraces : List Char → Bool
  | '{' :: rest => rest.contains '}'
  | _ => false

def isPropertyChar (c : Char) : Bool :=
  isLetter c || c == '-'

/-- An at sign in front of a name. -/
def startsAtRule : List Char → Bool
  | '@' :: c :: _ => isPropertyChar c
  | _ => false

/-- A class or id selector. -/
def startsReference : List Char → Bool
  | sigil :: c :: _ => (sigil == '.' || sigil == '#') && isNameChar c
  | _ => false

def startsDeclaration : List Char → Bool
  | c :: rest => isPropertyChar c && (trimLeft rest).head? == some ':'
  | [] => false

/-- Whether a text shows any sign of style sheet syntax. -/
def looksLikeStylesheet (source : List Char) : Bool :=
  anyTail startsBraces source || anyTail startsAtRule source || anyTail startsReference source ||
    anyTail startsDeclaration source

def preprocessorExtensions : List String := [".scss", ".sass", ".less"]

def usesPreprocessor (file : String) : Bool :=
  preprocessorExtensions.contains (String.ofList (lower (Path.extensionList file.toList)))

inductive Rejection where
  | notStylesheet
  | badStructure (fault : StructureFault)
  deriving DecidableEq, Repr

namespace Rejection

def message : Rejection → String
  | .notStylesheet => "File does not appear to contain valid CSS"
  | .badStructure fault => fault.message

def details : Rejection → Option String
  | .notStylesheet => some "File may be corrupted or in the wrong format"
  | .badStructure _ => none

def position : Rejection → Option Position
  | .notStylesheet => none
  | .badStructure fault => some fault.position

end Rejection

/-- What one selector text contributes. -/
structure Findings where
  selectors : List Selector
  errors : List ErrorRecord
  journal : Journal
  deriving DecidableEq, Repr

namespace Findings

def none : Findings := ⟨[], [], []⟩

def append (first second : Findings) : Findings :=
  ⟨first.selectors ++ second.selectors, first.errors ++ second.errors,
    first.journal ++ second.journal⟩

def concat (findings : List Findings) : Findings :=
  ⟨findings.flatMap selectors, findings.flatMap errors, findings.flatMap journal⟩

end Findings

def selectorError (file : String) (text : List Char) (fault : SelectorFault) : ErrorRecord :=
  { kind := .stylesheetParse
    message := "Failed to parse selector: " ++ String.ofList text
    file := some file
    details := some fault.message
    recoverable := true }

/-- A name that a rule declares; names that are no identifiers are passed over. -/
def referenceFindings (file : String) (position : Position) (reference : SelectorRef) : Findings :=
  if isIdentifier reference.name.toList then
    ⟨[⟨reference.kind, reference.name, file, position.line, position.column⟩], [], []⟩
  else
    ⟨[], [], [⟨.debug, .selectors, "Ignoring non-identifier " ++ reference.kind.word ++ " name " ++
      quoted reference.name ++ " in " ++ file⟩]⟩

def selectorFindings (file : String) (position : Position) (text : List Char) : Findings :=
  match readSelectors text with
  | .ok references => Findings.concat (references.map (referenceFindings file position))
  | .error fault =>
      ⟨[], [selectorError file text fault],
        [⟨.warning, .selectors, "Skipping selector " ++ quoted (String.ofList text) ++ " in " ++
          file ++ ": " ++ fault.message⟩]⟩

def ruleFindings (file : String) (rule : Rule) : Findings :=
  Findings.concat ((splitSelectors rule.prelude).map (selectorFindings file rule.position))

/-- The outcome for one style sheet: its selectors or why it is rejected, and in either case what
was reported on the way. -/
structure Extraction where
  outcome : Except Rejection (List Selector)
  errors : List ErrorRecord
  journal : Journal

/-- The class and id selectors that a style sheet declares, in source order. -/
def extractSelectors (source : List Char) (file : String) : Extraction :=
  if isAllBlank source then ⟨.ok [], [], []⟩
  else if !looksLikeStylesheet source then ⟨.error .notStylesheet, [], []⟩
  else
    let scan := scanRules (usesPreprocessor file) source
    let findings := Findings.concat (scan.rules.map (ruleFindings file))
    match scan.fault with
    | some fault => ⟨.error (.badStructure fault), findings.errors, findings.journal⟩
    | none => ⟨.ok findings.selectors, findings.errors, findings.journal⟩

end SelectorAudit.Stylesheet
