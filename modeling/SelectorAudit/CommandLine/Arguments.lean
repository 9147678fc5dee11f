import SelectorAudit.Text.Quoted

/-!
# Arguments

How the words of a command line fall into options and positional arguments. Where options and
arguments may be mixed, a double hyphen ends the options; otherwise the first argument does.
-/

namespace SelectorAudit.CommandLine

set_option autoImplicit false

/-- What is wrong with the way in which the program is called. -/
inductive UsageFault where
  | noSuchOption (name : String)
  | needsValue (name : String)
  | takesNoValue (name : String)
  | missingArgument (name : String)
  | extraArguments (arguments : List String)
  | invalidValue (parameter complaint : String)
  | missingCommand
  | noSuchCommand (name : String)
  deriving DecidableEq, Repr

def UsageFault.message : UsageFault → String
  | .noSuchOption name => "No such option: " ++ name
  | .needsValue name => "Option " ++ Text.quoted name ++ " requires an argument."
  | .takesNoValue name => "Option " ++ Text.quoted name ++ " does not take a value."
  | .missingArgument name => "Missing argument '" ++ name ++ "'."
  | .extraArguments arguments =>
      "Got unexpected extra argument" ++ (if arguments.length == 1 then "" else "s") ++ " (" ++
        " ".intercalate arguments ++ ")"
  | .invalidValue parameter complaint =>
      "Invalid value for '" ++ parameter ++ "': " ++ complaint
  | .missingCommand => "Missing command."
  | .noSuchCommand name => "No such command " ++ Text.quoted name ++ "."

def UsageFault.showsUsage : UsageFault → Bool
  | .needsValue _ => false
  | .takesNoValue _ => false
  | _ => true

/-- An option of a command. A single letter names a flag only. -/
structure OptionSpec (Id : Type) where
  id : Id
  name : String
  letter : Option Char
  takesValue : Bool

/-- The options given, in order, each with its value or an empty one, and the other arguments. -/
structure Parsed (Id : Type) where
  given : List (Id × String)
  positional : List String

section

variable {Id : Type}

def Parsed.withOption (parsed : Parsed Id) (id : Id) (value : String) : Parsed Id :=
  { parsed with given := (id, value) :: parsed.given }

def Parsed.withArgument (parsed : Parsed Id) (argument : String) : Parsed Id :=
  { parsed with positional := argument :: parsed.positional }

def splitWord (word : String) : String × Option String :=
  let text := word.toList
  let name := String.ofList (text.takeWhile fun c => c != '=')
  match text.dropWhile fun c => c != '=' with
  | _ :: value => (name, some (String.ofList value))
  | [] => (name, none)

def isOptionWord (word : String) : Bool :=
  match word.toList with
  | '-' :: _ :: _ => true
  | _ => false

def letterFlags (specs : List (OptionSpec Id)) :
    List Char → Except UsageFault (List (Id × String))
  | [] => .ok []
  | letter :: rest =>
      match specs.find? fun spec => spec.letter == some letter with
      | some spec => (letterFlags specs rest).map fun later => (spec.id, "") :: later
      | none => .error (.noSuchOption (String.ofList ['-', letter]))

def parseWords (specs : List (OptionSpec Id)) (mixed : Bool) :
    List String → Except UsageFault (Parsed Id)
  | [] => .ok ⟨[], []⟩
  | word :: rest =>
      if word == "--" then .ok ⟨[], rest⟩
      else if isOptionWord word then
        let (name, explicit) := splitWord word
        match specs.find? fun spec => spec.name == name with
        | some spec =>
            if spec.takesValue then
              match explicit with
              | some value =>
                  (parseWords specs mixed rest).map fun parsed => parsed.withOption spec.id value
              | none =>
                  match rest with
                  | [] => .error (.needsValue name)
                  | value :: behind =>
                      (parseWords specs mixed behind).map fun parsed =>
                        parsed.withOption spec.id value
            else if explicit.isSome then .error (.takesNoValue name)
            else (parseWords specs mixed rest).map fun parsed => parsed.withOption spec.id ""
        | none =>
            if "--".toList.isPrefixOf word.toList then .error (.noSuchOption name)
            else
              match letterFlags specs (word.toList.drop 1) with
              | .error fault => .error fault
              | .ok flags =>
                  (parseWords specs mixed rest).map fun parsed =>
                    { parsed with given := flags ++ parsed.given }
      else if mixed then
        (parseWords specs mixed rest).map fun parsed => parsed.withArgument word
      else .ok ⟨[], word :: rest⟩

end

end SelectorAudit.CommandLine
