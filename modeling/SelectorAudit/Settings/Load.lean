import SelectorAudit.Json.Reader
import SelectorAudit.Settings.Options
import SelectorAudit.Storage.Tree

/-!
# Option files

Options can be kept in a file that holds a JSON object in well-formed UTF-8. A file whose values are
nested too deep for the stack gives no options either, but that is no fault that is reported.
-/

namespace SelectorAudit.Settings

set_option autoImplicit false

/-- Why a file gives no options. -/
inductive LoadFault where
  | system (fault : Storage.SystemFault) (path : String)
  | encoding (fault : Text.Utf8.Fault)
  | json (fault : Json.Fault) (text : List Char)
  | noObject
  /-- Reading the file has used up the stack, and nothing has caught it. -/
  | exhausted (overflow : Json.Overflow)

def LoadFault.message : LoadFault → String
  | .system fault path => "Cannot load configuration: " ++ fault.message path
  | .encoding fault => "Cannot load configuration: " ++ fault.message
  | .json fault text => "Cannot load configuration: " ++ fault.message text
  | .noObject => "Configuration file must hold a JSON object"
  | .exhausted overflow => overflow.message

def Options.ofText (spare : Nat) (text : List Char) : Except LoadFault Options :=
  match Json.read spare text with
  | .error (.exhausted overflow) => .error (.exhausted overflow)
  | .error fault => .error (.json fault text)
  | .ok (.object entries) => .ok (Options.ofEntries entries)
  | .ok _ => .error .noObject

def Options.ofBytes (spare : Nat) (content : Text.Utf8.Bytes) : Except LoadFault Options :=
  match Text.Utf8.strict content with
  | .error fault => .error (.encoding fault)
  | .ok text => Options.ofText spare (Text.normalNewlines text)

def Options.load (spare : Nat) (tree : Storage.FileTree) (path : String) :
    Except LoadFault Options :=
  match tree.open? (Path.tidy path) with
  | .error fault => .error (.system fault (Path.tidy path))
  | .ok content => Options.ofBytes spare content

end SelectorAudit.Settings
