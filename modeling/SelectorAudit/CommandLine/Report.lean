import SelectorAudit.Analysis.Result
import SelectorAudit.Json.Printer

/-!
# Reports

How the outcome of an analysis is printed: as text for people, or as JSON.
-/

namespace SelectorAudit.CommandLine

set_option autoImplicit false

open Analysis Report
open Json (Value)

def unlines (lines : List String) : String :=
  String.join (lines.map fun line => line ++ "\n")

def textOrNull : Option String → Value
  | some text => .text text
  | none => .null

def selectorValue (root : String) (selector : Selector) : Value :=
  .object [("selector", .text selector.text), ("kind", .text selector.kind.word),
    ("file", .text (Path.relativeTo selector.file root)), ("line", .integer selector.line),
    ("column", .integer selector.column)]

def tallyValue (tally : Tally) : Value :=
  .object [("succeeded", .integer tally.succeeded), ("failed", .integer tally.failed),
    ("skipped", .integer tally.skipped)]

def errorValue (record : ErrorRecord) : Value :=
  .object [("kind", .text record.kind.word), ("message", .text record.message),
    ("file", textOrNull record.file), ("details", textOrNull record.details),
    ("recoverable", .bool record.recoverable)]

def resultValue (root : String) (result : Result) : Value :=
  .object [("status", .text result.status.word), ("skip_reason", textOrNull result.skipReason),
    ("selectors", .integer result.selectors.length),
    ("unused", .list (result.unused.map (selectorValue root))),
    ("files", .object (SourceKind.all.map fun kind =>
      (kind.word, tallyValue (result.counts.get kind)))),
    ("errors", .list (result.errors.records.map errorValue))]

def sortedCounts (log : ErrorLog) : List (ErrorKind × Nat) :=
  log.counts.mergeSort fun first second => decide (first.1.word ≤ second.1.word)

def fileLines (root : String) (sink : Sink) (file : String) : List String :=
  Path.relativeTo file root :: (sink.get file).map fun diagnostic =>
    "  " ++ toString diagnostic.line ++ ":" ++ toString diagnostic.column ++ "  " ++
      diagnostic.headline

def summaryLine (result : Result) : String :=
  if result.unused.isEmpty then
    "All " ++ toString result.selectors.length ++ " CSS selectors are in use"
  else
    "Found " ++ toString result.unusedCount ++ " unused selector(s) (" ++
      toString result.distinctUnusedCount ++ " distinct) out of " ++
      toString result.selectors.length ++ " total"

def errorLines (showErrors : Bool) (log : ErrorLog) : List String :=
  if !log.hasErrors then []
  else
    (toString log.total ++ " error(s) recorded during analysis") ::
      if showErrors then
        (sortedCounts log).map (fun entry =>
          "  " ++ entry.1.word ++ ": " ++ toString entry.2) ++
          log.records.map fun record => "  - " ++ record.summary
      else []

def findingLines (root : String) (sink : Sink) (showErrors : Bool) (result : Result) :
    List String :=
  match result.skipReason with
  | some reason => ["Skipping analysis: " ++ reason]
  | none =>
      sink.files.flatMap (fileLines root sink) ++ (if sink.files.isEmpty then [] else [""]) ++
        summaryLine result :: errorLines showErrors result.errors

def abortLines (result : Result) : List String :=
  (result.errors.records.filter fun record => !record.recoverable).map fun record =>
    "Analysis aborted: " ++ record.summary

end SelectorAudit.CommandLine
