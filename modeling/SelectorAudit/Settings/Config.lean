import SelectorAudit.Settings.Options
import SelectorAudit.Path
import SelectorAudit.Report.Tally
import SelectorAudit.Text.LowerCase

/-!
# Configurations

A configuration is made of options that have been checked. The options are checked in a fixed order,
and the first one that is not as it should be is the one complained about.
-/

namespace SelectorAudit.Settings

set_option autoImplicit false

open Json (Value)

structure Config where
  includeFileTypes : List String
  componentFileTypes : List String
  jsxFileTypes : List String
  decoratorFileTypes : List String
  excludePatterns : List String
  minFilesForAnalysis : Nat
  maxStylesheetBytes : Nat
  maxComponentBytes : Nat
  debounceDelay : Nat
  deriving DecidableEq, Repr

/-- What is wrong with an option. -/
inductive ConfigFault where
  | noExtensions (name : OptionName)
  | badExtension (name : OptionName) (entry : Value)
  | badPatterns
  | noInteger (name : OptionName)
  | tooSmall (name : OptionName) (least value : Int)
  | outOfRange (name : OptionName) (least greatest value : Int)

def ConfigFault.message : ConfigFault → String
  | .noExtensions name => name.word ++ " must be a non-empty list"
  | .badExtension name entry =>
      name.word ++ " entries must be extensions starting with '.', got " ++ entry.describe
  | .badPatterns => "exclude_patterns must be a list of glob strings"
  | .noInteger name => name.word ++ " must be an integer"
  | .tooSmall name least value =>
      name.word ++ " must be >= " ++ toString least ++ ", got " ++ toString value
  | .outOfRange name least greatest value =>
      name.word ++ " must be between " ++ toString least ++ " and " ++ toString greatest ++
        ", got " ++ toString value

def extension? : Value → Option String
  | .text text => if text.toList.head? == some '.' then some text else none
  | _ => none

def extensionsOf (name : OptionName) : List Value → Except ConfigFault (List String)
  | [] => .ok []
  | entry :: rest =>
      match extension? entry with
      | none => .error (.badExtension name entry)
      | some extension => (extensionsOf name rest).map fun later => extension :: later

def checkExtensions (options : Options) (name : OptionName) : Except ConfigFault (List String) :=
  match options name with
  | .list (entry :: rest) => extensionsOf name (entry :: rest)
  | _ => .error (.noExtensions name)

def textsOf : List Value → Option (List String)
  | [] => some []
  | .text text :: rest => (textsOf rest).map fun later => text :: later
  | _ :: _ => none

def checkPatterns (options : Options) : Except ConfigFault (List String) :=
  match options .excludePatterns with
  | .list entries =>
      match textsOf entries with
      | some texts => .ok texts
      | none => .error .badPatterns
  | _ => .error .badPatterns

/-- A whole number that is not below a bound. -/
def checkAtLeast (options : Options) (name : OptionName) (least : Int) :
    Except ConfigFault Nat :=
  match options name with
  | .integer value =>
      if value < least then .error (.tooSmall name least value) else .ok value.toNat
  | _ => .error (.noInteger name)

/-- A whole number between two bounds. -/
def checkBetween (options : Options) (name : OptionName) (least greatest : Int) :
    Except ConfigFault Nat :=
  match options name with
  | .integer value =>
      if value < least || greatest < value then
        .error (.outOfRange name least greatest value)
      else .ok value.toNat
  | _ => .error (.noInteger name)

/-- The configuration that options make up, or the first thing wrong with them. -/
def validate (options : Options) : Except ConfigFault Config := do
  let includeFileTypes ← checkExtensions options .includeFileTypes
  let componentFileTypes ← checkExtensions options .componentFileTypes
  let jsxFileTypes ← checkExtensions options .jsxFileTypes
  let decoratorFileTypes ← checkExtensions options .decoratorFileTypes
  let excludePatterns ← checkPatterns options
  let minFilesForAnalysis ← checkAtLeast options .minFilesForAnalysis 1
  let maxStylesheetBytes ← checkAtLeast options .maxStylesheetBytes 1
  let maxComponentBytes ← checkAtLeast options .maxComponentBytes 1
  let debounceDelay ← checkBetween options .debounceDelay 0 10000
  return {
    includeFileTypes
    componentFileTypes
    jsxFileTypes
    decoratorFileTypes
    excludePatterns
    minFilesForAnalysis
    maxStylesheetBytes
    maxComponentBytes
    debounceDelay
  }

/-- The extension of a path in lower case. -/
def lowerExtension (path : String) : String :=
  String.ofList (Text.lower (Path.extensionList path.toList))

/-- The dialect of a component file, if it has one. An extension that is listed for both dialects
belongs to the decorated components. -/
def Config.sourceKind (config : Config) (path : String) : Option Report.SourceKind :=
  if config.decoratorFileTypes.contains (lowerExtension path) then some .decorator
  else if config.jsxFileTypes.contains (lowerExtension path) then some .jsx
  else none

def Config.defaults : Config :=
  { includeFileTypes := [".css", ".scss", ".less"]
    componentFileTypes := [".jsx", ".tsx", ".ts", ".js"]
    jsxFileTypes := [".jsx", ".tsx", ".js", ".mjs", ".cjs"]
    decoratorFileTypes := [".ts"]
    excludePatterns := ["**/node_modules/**", "**/dist/**", "**/build/**", "**/.git/**"]
    minFilesForAnalysis := 1
    maxStylesheetBytes := 5 * 1024 * 1024
    maxComponentBytes := 2 * 1024 * 1024
    debounceDelay := 500 }

theorem validate_defaults : validate Options.defaults = .ok Config.defaults := by
  rfl

end SelectorAudit.Settings
