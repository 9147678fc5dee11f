/-!
# Paths

Paths are texts whose components are divided by slashes. A path that starts with a slash is
absolute; exactly two slashes at the start are kept apart from one, and three or more count as one.
-/

namespace SelectorAudit.Path

set_option autoImplicit false

/-- The pieces between the slashes of a text. -/
def componentsFrom (current : List Char) : List Char → List (List Char)
  | [] => [current.reverse]
  | c :: rest =>
      if c == '/' then current.reverse :: componentsFrom [] rest
      else componentsFrom (c :: current) rest

def components (path : List Char) : List (List Char) :=
  componentsFrom [] path

/-- How many slashes stand before the first component of a normal path. -/
def rootSlashes (path : List Char) : Nat :=
  let slashes := (path.takeWhile fun c => c == '/').length
  if slashes == 2 then 2 else if slashes == 0 then 0 else 1

def isAbsolute (path : List Char) : Bool :=
  path.head? == some '/'

def parent : List Char := ['.', '.']

/-- Adds a component to the components kept so far, last first: empty ones and dots vanish, and two
dots take the component before them away, except behind nothing in a relative path or behind other
leading dots. -/
def normalStep (absolute : Bool) (kept : List (List Char)) (component : List Char) :
    List (List Char) :=
  if component == [] || component == ['.'] then kept
  else if component == parent then
    match kept with
    | [] => if absolute then [] else [parent]
    | last :: before => if last == parent then parent :: kept else before
  else component :: kept

def normalComponents (path : List Char) : List (List Char) :=
  ((components path).foldl (normalStep (isAbsolute path)) []).reverse

/-- Joins components by slashes. -/
def render (parts : List (List Char)) : List Char :=
  List.intercalate ['/'] parts

def normalizeList (path : List Char) : List Char :=
  let text := List.replicate (rootSlashes path) '/' ++ render (normalComponents path)
  if text.isEmpty then ['.'] else text

def joinList (base reference : List Char) : List Char :=
  if isAbsolute reference then reference
  else if base.isEmpty || base.getLast? == some '/' then base ++ reference
  else base ++ '/' :: reference

def resolveList (base reference : List Char) : List Char :=
  normalizeList (joinList base reference)

def normalize (path : String) : String :=
  String.ofList (normalizeList path.toList)

def join (base reference : String) : String :=
  String.ofList (joinList base.toList reference.toList)

def resolve (base reference : String) : String :=
  String.ofList (resolveList base.toList reference.toList)

/-- What stands behind the last slash. -/
def baseNameList (path : List Char) : List Char :=
  (path.reverse.takeWhile fun c => c != '/').reverse

def baseName (path : String) : String :=
  String.ofList (baseNameList path.toList)

/-- What stands before the last slash, without slashes at its end unless it is all slashes. -/
def dirNameList (path : List Char) : List Char :=
  let head := (path.reverse.dropWhile fun c => c != '/').reverse
  if head.all fun c => c == '/' then head
  else (head.reverse.dropWhile fun c => c == '/').reverse

def dirName (path : String) : String :=
  String.ofList (dirNameList path.toList)

/-- The last dot of a file name and what follows it; dots at the start of the name do not count. -/
def extensionList (path : List Char) : List Char :=
  let name := (baseNameList path).dropWhile fun c => c == '.'
  if name.contains '.' then '.' :: (name.reverse.takeWhile fun c => c != '.').reverse else []

def extension (path : String) : String :=
  String.ofList (extensionList path.toList)

/-- A path without empty components and dots, as a file is named once it is opened. -/
def tidy (path : String) : String :=
  let text := path.toList
  let parts := (components text).filter fun part => part != [] && part != ['.']
  let tidied := List.replicate (rootSlashes text) '/' ++ render parts
  String.ofList (if tidied.isEmpty then ['.'] else tidied)

/-- Drops the components that two lists share at their starts. -/
def dropCommon : List (List Char) → List (List Char) → List (List Char) × List (List Char)
  | a :: as, b :: bs => if a == b then dropCommon as bs else (a :: as, b :: bs)
  | as, bs => (as, bs)

def relativeTo (path start : String) : String :=
  let rest := dropCommon (normalComponents start.toList) (normalComponents path.toList)
  let parts := rest.1.map (fun _ => parent) ++ rest.2
  String.ofList (if parts.isEmpty then ['.'] else render parts)

end SelectorAudit.Path
