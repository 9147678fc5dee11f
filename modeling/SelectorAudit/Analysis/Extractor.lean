import SelectorAudit.Markup.Component
import SelectorAudit.Stylesheet.Extract

/-!
# Extractors

The three kinds of files are read by one kind of function: from the text of a file to the records
it contributes, or to why it contributes none, along with what was reported on the way.
-/

namespace SelectorAudit.Analysis

set_option autoImplicit false

open Report

inductive Failure where
  | rejected (message : String) (details : Option String)
  | breakdown (message : String)
  deriving DecidableEq, Repr

structure Extracted (State Item : Type) where
  outcome : Except Failure (List Item)
  errors : List ErrorRecord
  journal : Journal
  state : State

abbrev Extractor (State Item : Type) := State → List Char → String → Extracted State Item

def rejectionDetails (rejection : Stylesheet.Rejection) : Option String :=
  match rejection.details, rejection.position with
  | some details, _ => some details
  | none, some position =>
      some ("line " ++ toString position.line ++ ", column " ++ toString position.column)
  | none, none => none

def stylesheetExtractor {State : Type} : Extractor State Selector := fun state source file =>
  let extraction := Stylesheet.extractSelectors source file
  { outcome := extraction.outcome.mapError fun rejection =>
      .rejected rejection.message (rejectionDetails rejection)
    errors := extraction.errors
    journal := extraction.journal
    state := state }

def elementExtractor {State : Type} (parse : Markup.ModuleParser) : Extractor State UsedName :=
  fun state source file =>
  let usage := Markup.elementUsage parse source file
  ⟨.ok usage.used, usage.errors, usage.journal, state⟩

def decoratorExtractor {State : Type} (parse : Markup.ModuleParser) (read : Storage.Reader State)
    (limit : Int) : Extractor State UsedName := fun state source file =>
  let usage := Markup.decoratedUsage parse read limit state source file
  ⟨usage.outcome.mapError .breakdown, usage.errors, usage.journal, usage.state⟩

end SelectorAudit.Analysis
