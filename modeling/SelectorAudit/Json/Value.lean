import SelectorAudit.Number.Shortest
import SelectorAudit.Text.Quoted

/-!
# JSON values

The values that option files and reports are made of. An object keeps its keys in the order in which
they were first given, each key once. `Value.describe` is how messages show a value.
-/

namespace SelectorAudit.Json

set_option autoImplicit false

inductive Value where
  | null
  | bool (value : Bool)
  | integer (value : Int)
  | real (value : Number.Binary64)
  | text (value : String)
  | list (items : List Value)
  | object (entries : List (String × Value))

def setKey (entries : List (String × Value)) (key : String) (value : Value) :
    List (String × Value) :=
  match entries with
  | [] => [(key, value)]
  | entry :: rest =>
      if entry.1 == key then (key, value) :: rest else entry :: setKey rest key value

def Value.typeName : Value → String
  | .null => "NoneType"
  | .bool _ => "bool"
  | .integer _ => "int"
  | .real _ => "float"
  | .text _ => "str"
  | .list _ => "tuple"
  | .object _ => "dict"

mutual

def Value.describe : Value → String
  | .null => "None"
  | .bool value => if value then "True" else "False"
  | .integer value => toString value
  | .real value => value.render
  | .text value => Text.quoted value
  | .list items => "[" ++ ", ".intercalate (describeItems items) ++ "]"
  | .object entries => "\x7b" ++ ", ".intercalate (describeEntries entries) ++ "\x7d"

def describeItems : List Value → List String
  | [] => []
  | item :: rest => item.describe :: describeItems rest

def describeEntries : List (String × Value) → List String
  | [] => []
  | (key, value) :: rest => (Text.quoted key ++ ": " ++ value.describe) :: describeEntries rest

end

end SelectorAudit.Json
