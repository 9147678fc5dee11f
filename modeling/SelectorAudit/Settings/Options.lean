import SelectorAudit.Json.Value

/-!
# Options

The options of an analysis as they are given: values of any shape under known names. Whether they
make sense is decided later, when a configuration is made of them.
-/

namespace SelectorAudit.Settings

set_option autoImplicit false

open Json (Value)

inductive OptionName where
  | includeFileTypes
  | componentFileTypes
  | jsxFileTypes
  | decoratorFileTypes
  | excludePatterns
  | minFilesForAnalysis
  | maxStylesheetBytes
  | maxComponentBytes
  | debounceDelay
  deriving DecidableEq, Repr

namespace OptionName

def all : List OptionName :=
  [.includeFileTypes, .componentFileTypes, .jsxFileTypes, .decoratorFileTypes, .excludePatterns,
    .minFilesForAnalysis, .maxStylesheetBytes, .maxComponentBytes, .debounceDelay]

/-- The name as messages show it. -/
def word : OptionName → String
  | .includeFileTypes => "include_file_types"
  | .componentFileTypes => "component_file_types"
  | .jsxFileTypes => "jsx_file_types"
  | .decoratorFileTypes => "decorator_file_types"
  | .excludePatterns => "exclude_patterns"
  | .minFilesForAnalysis => "min_files_for_analysis"
  | .maxStylesheetBytes => "max_stylesheet_bytes"
  | .maxComponentBytes => "max_component_bytes"
  | .debounceDelay => "debounce_delay"

def hostWord : OptionName → String
  | .includeFileTypes => "includeFileTypes"
  | .componentFileTypes => "componentFileTypes"
  | .jsxFileTypes => "jsxFileTypes"
  | .decoratorFileTypes => "decoratorFileTypes"
  | .excludePatterns => "excludePatterns"
  | .minFilesForAnalysis => "minFilesForAnalysis"
  | .maxStylesheetBytes => "maxStylesheetBytes"
  | .maxComponentBytes => "maxComponentBytes"
  | .debounceDelay => "debounceDelay"

def ofKey? (key : String) : Option OptionName :=
  all.find? fun name => name.word == key || name.hostWord == key

end OptionName

/-- A value for every option. -/
abbrev Options := OptionName → Value

def textList (texts : List String) : Value :=
  .list (texts.map Value.text)

namespace Options

def defaults : Options
  | .includeFileTypes => textList [".css", ".scss", ".less"]
  | .componentFileTypes => textList [".jsx", ".tsx", ".ts", ".js"]
  | .jsxFileTypes => textList [".jsx", ".tsx", ".js", ".mjs", ".cjs"]
  | .decoratorFileTypes => textList [".ts"]
  | .excludePatterns =>
      textList ["**/node_modules/**", "**/dist/**", "**/build/**", "**/.git/**"]
  | .minFilesForAnalysis => .integer 1
  | .maxStylesheetBytes => .integer (5 * 1024 * 1024)
  | .maxComponentBytes => .integer (2 * 1024 * 1024)
  | .debounceDelay => .integer 500

def set (options : Options) (name : OptionName) (value : Value) : Options := fun other =>
  if other = name then value else options other

/-- Takes one entry into account; an unknown key changes nothing. -/
def withEntry (options : Options) (entry : String × Value) : Options :=
  match OptionName.ofKey? entry.1 with
  | some name => options.set name entry.2
  | none => options

/-- The options that entries give; where two name the same option the later one counts. -/
def ofEntries (entries : List (String × Value)) : Options :=
  entries.foldl withEntry defaults

end Options

end SelectorAudit.Settings
