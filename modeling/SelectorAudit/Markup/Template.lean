import SelectorAudit.Selector
import SelectorAudit.Text.Identifier
import SelectorAudit.Text.Search
import SelectorAudit.Text.Word

/-!
# Class and id names in templates

A template mixes markup with bindings, so it is searched for five patterns rather than parsed: a
class attribute, a binding of a whole class list, an id attribute, an interpolated name, and a
binding of a single class. The names come out pattern by pattern, and for each pattern in the order
of the text; the occurrences of one pattern do not overlap.
-/

namespace SelectorAudit.Markup.Template

set_option autoImplicit false

open Text

/-- A pattern tried at one place, given the character before it: what it captures and how many
characters it takes. -/
abbrev Pattern (α : Type) := Option Char → List Char → Option (α × Nat)

/-- The captures of a pattern from left to right, where `skip` characters are still part of the
occurrence before. -/
def findFrom {α : Type} (pattern : Pattern α) (before : Option Char) (skip : Nat) :
    List Char → List α
  | [] => []
  | c :: rest =>
      match skip with
      | skip + 1 => findFrom pattern (some c) skip rest
      | 0 =>
          match pattern before (c :: rest) with
          | some (capture, size) => capture :: findFrom pattern (some c) (size - 1) rest
          | none => findFrom pattern (some c) 0 rest

def findAll {α : Type} (pattern : Pattern α) (text : List Char) : List α :=
  findFrom pattern none 0 text

/-- Whether a character is a small letter or one of its other forms: its capital, the long s for an
s, the dotless and the dotted capital i for an i. -/
def isFormOf (letter c : Char) : Bool :=
  c == letter || c.toNat + 32 == letter.toNat || (letter == 's' && c.toNat == 0x17f) ||
    (letter == 'i' && (c.toNat == 0x130 || c.toNat == 0x131))

def behindFormsOf? : List Char → List Char → Option (List Char)
  | [], text => some text
  | letter :: word, c :: text => if isFormOf letter c then behindFormsOf? word text else none
  | _ :: _, [] => none

/-- A value between quotation marks behind an equals sign, and what stands behind it. -/
def assignedValue? (text : List Char) : Option (List Char × List Char) :=
  match trimLeft text with
  | '=' :: value =>
      match trimLeft value with
      | mark :: rest =>
          if isQuote mark then
            match rest.dropWhile fun c => c != mark with
            | _ :: behind => some (rest.takeWhile fun c => c != mark, behind)
            | [] => none
          else none
      | [] => none
  | _ => none

def attributeValue (name : List Char) : Pattern (List Char) := fun before text =>
  if before.any isWordChar then none
  else
    match behindFormsOf? name text with
    | none => none
    | some behindName =>
        (assignedValue? behindName).map fun found => (found.1, text.length - found.2.length)

def classListBinding : Pattern (List Char) := fun _ text =>
  match (behindWord? "[ngClass]".toList text).or (behindWord? "[class]".toList text) with
  | none => none
  | some behindName =>
      (assignedValue? behindName).map fun found => (found.1, text.length - found.2.length)

/-- Two braces, what they enclose, and two braces; the enclosed text holds no closing brace. -/
def interpolation : Pattern (List Char) := fun _ text =>
  match text with
  | '{' :: '{' :: rest =>
      let inner := rest.takeWhile fun c => c != '}'
      match inner, rest.dropWhile fun c => c != '}' with
      | _ :: _, '}' :: '}' :: _ => some (inner, inner.length + 4)
      | _, _ => none
  | _ => none

def classBinding : Pattern (List Char) := fun _ text =>
  match behindWord? "[class.".toList text with
  | none => none
  | some rest =>
      let name := rest.takeWhile isNameChar
      match name, rest.dropWhile isNameChar with
      | _ :: _, ']' :: _ => some (name, name.length + 8)
      | _, _ => none

def stringLiteral? (value : List Char) : Option (List Char) :=
  match trimLeft value with
  | mark :: rest =>
      if isQuote mark then
        match rest.dropWhile fun c => !isQuote c with
        | closing :: behind =>
            if closing == mark && isAllBlank behind then
              some (rest.takeWhile fun c => !isQuote c)
            else none
        | [] => none
      else none
  | [] => none

def classListNames (value : List Char) : List String :=
  match stringLiteral? value with
  | some text => staticTokens text
  | none => if value.any isQuote then [] else staticTokens value

def isBareName (text : List Char) : Bool :=
  match text with
  | c :: rest => (isLetter c || c == '_') && rest.all isNameChar
  | [] => false

def interpolatedNames (inner : List Char) : List String :=
  if isBareName (trim inner) then [String.ofList (trim inner)] else []

/-- Every class and id name that a template uses. -/
def names (template : List Char) : List String :=
  (findAll (attributeValue "class".toList) template).flatMap staticTokens ++
    (findAll classListBinding template).flatMap classListNames ++
    (findAll (attributeValue "id".toList) template).flatMap (fun value => (staticTokens value).take 1) ++
    (findAll interpolation template).flatMap interpolatedNames ++
    (findAll classBinding template).map String.ofList

def usage (template : List Char) (file : String) : List UsedName :=
  (names template).map fun name => ⟨name, file⟩

end SelectorAudit.Markup.Template
