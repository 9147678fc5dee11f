import SelectorAudit.Storage.Glob
import SelectorAudit.Storage.Tree
import SelectorAudit.Text.LowerCase
import SelectorAudit.Text.Order

/-!
# Discovery of files

The files below a directory that have one of some extensions and match none of some patterns. A
directory that a pattern excludes is not entered. A link to a directory counts as a directory that
is not entered, any other link as a file.
-/

namespace SelectorAudit.Storage

set_option autoImplicit false

/-- What is looked for. -/
structure Search where
  extensions : List String
  exclusions : List Glob.Pattern

def lowered (text : String) : String :=
  String.ofList (Text.lower text.toList)

/-- The search that extensions and patterns describe; extensions may be in any case. -/
def Search.of (extensions patterns : List String) : Search :=
  ⟨extensions.map lowered, patterns.map fun pattern => Glob.parse pattern.toList⟩

/-- Whether a pattern matches a path relative to the root, with or without a dot and a slash in front
of it: so a pattern for a directory at any depth also finds it directly below the root. -/
def Search.excludes (search : Search) (relative : String) : Bool :=
  search.exclusions.any fun pattern =>
    Glob.matchesText pattern ("./".toList ++ relative.toList) ||
      Glob.matchesText pattern relative.toList

def Search.wants (search : Search) (name relative : String) : Bool :=
  search.extensions.contains (lowered (Path.extension name)) && !search.excludes relative

def FileTree.linksToDirectory (tree : FileTree) (location : Location) (name : String) : Bool :=
  match tree.follow linkLimit location [name] with
  | .ok found => (tree.at? found).any Entry.isDirectory
  | .error _ => false

/-- The relative paths of the wanted files among the entries of a directory and below them.
`location` is where the directory is, and `within` its relative path, with a slash at the end unless
it is the root. -/
def filesAmong (tree : FileTree) (search : Search) (location : Location) (within : String) :
    List (String × Entry) → List String
  | [] => []
  | (name, entry) :: rest =>
      let relative := within ++ name
      let file := if search.wants name relative then [relative] else []
      let found :=
        match entry with
        | .directory entries =>
            if search.excludes (relative ++ "/") then []
            else filesAmong tree search (location ++ [name]) (relative ++ "/") entries
        | .file _ => file
        | .link _ => if tree.linksToDirectory location name then [] else file
      found ++ filesAmong tree search location within rest

/-- The location that steps lead to when what does not exist is taken to be an empty directory. -/
def FileTree.resolve (tree : FileTree) (links : Nat) (location : Location) (steps : List String) :
    Location :=
  match steps with
  | [] => location
  | name :: rest =>
      if name == here then tree.resolve links location rest
      else if name == above then tree.resolve links location.dropLast rest
      else
        match tree.at? (location ++ [name]) with
        | some (.link target) =>
            match links with
            | 0 => location ++ [name]
            | links + 1 =>
                tree.resolve links (if Path.isAbsolute target.toList then [] else location)
                  (stepsOf target ++ rest)
        | _ => tree.resolve links (location ++ [name]) rest
termination_by (links, steps.length)

def directoryPath (location : Location) : String :=
  "/" ++ String.join (location.map fun name => name ++ "/")

/-- The absolute paths of the wanted files below a directory, sorted by code points. -/
def discover (tree : FileTree) (root : String) (extensions patterns : List String) :
    List String :=
  let location := tree.resolve linkLimit [] (stepsOf root)
  match tree.at? location with
  | some (.directory entries) =>
      Text.sort ((filesAmong tree (Search.of extensions patterns) location "" entries).map
        fun relative => directoryPath location ++ relative)
  | _ => []

/-- Whether the path of a directory is short enough for the system to list it. -/
def isListable (location : Location) : Bool :=
  (directoryPath location).utf8ByteSize ≤ pathLimit

/-- How many directories deep the search gets among the entries of a directory. A link to a directory
is looked at although it is not entered. -/
def depthAmong (tree : FileTree) (search : Search) (location : Location) (within : String) :
    List (String × Entry) → Nat
  | [] => 0
  | (name, entry) :: rest =>
      let relative := within ++ name ++ "/"
      let below :=
        match entry with
        | .directory entries =>
            if search.excludes relative then 0
            else if !isListable (location ++ [name]) then 1
            else depthAmong tree search (location ++ [name]) relative entries + 1
        | .file _ => 0
        | .link _ =>
            if search.excludes relative || !isListable (location ++ [name]) then 0
            else if tree.linksToDirectory location name then 1 else 0
      max below (depthAmong tree search location within rest)

/-- How many directories deep a search below a directory gets. -/
def searchDepth (tree : FileTree) (root : String) (patterns : List String) : Nat :=
  let location := tree.resolve linkLimit [] (stepsOf root)
  match tree.at? location with
  | some (.directory entries) =>
      if isListable location then depthAmong tree (Search.of [] patterns) location "" entries else 0
  | _ => 0

end SelectorAudit.Storage
