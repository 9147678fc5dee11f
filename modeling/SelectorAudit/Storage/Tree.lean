import SelectorAudit.Path
import SelectorAudit.Storage.Access
import SelectorAudit.Text.Quoted
import SelectorAudit.Text.Utf8

/-!
# File trees

A tree of directories, files and symbolic links, and the ways in which a path leads through it. A
path is followed component by component from the root; a link is replaced by its target, and two dots
lead to the directory that holds the present one, wherever a link has led.
-/

namespace SelectorAudit.Storage

set_option autoImplicit false

open Text.Utf8 (Bytes)

inductive Entry where
  | file (content : Bytes)
  | link (target : String)
  | directory (entries : List (String × Entry))

/-- The entries of the root directory. -/
structure FileTree where
  entries : List (String × Entry)

inductive SystemFault where
  | noEntry
  | notDirectory
  | isDirectory
  | nameTooLong
  | tooManyLinks
  deriving DecidableEq, Repr

def SystemFault.number : SystemFault → Nat
  | .noEntry => 2
  | .notDirectory => 20
  | .isDirectory => 21
  | .nameTooLong => 36
  | .tooManyLinks => 40

def SystemFault.text : SystemFault → String
  | .noEntry => "No such file or directory"
  | .notDirectory => "Not a directory"
  | .isDirectory => "Is a directory"
  | .nameTooLong => "File name too long"
  | .tooManyLinks => "Too many levels of symbolic links"

def SystemFault.className : SystemFault → String
  | .noEntry => "FileNotFoundError"
  | .notDirectory => "NotADirectoryError"
  | .isDirectory => "IsADirectoryError"
  | _ => "OSError"

def SystemFault.message (fault : SystemFault) (path : String) : String :=
  "[Errno " ++ toString fault.number ++ "] " ++ fault.text ++ ": " ++ Text.quoted path

/-- The names that lead from the root to an entry, free of links and dots. -/
abbrev Location := List String

namespace Entry

def descend? : Entry → Location → Option Entry
  | entry, [] => some entry
  | .directory entries, name :: rest =>
      match entries.lookup name with
      | some entry => entry.descend? rest
      | none => none
  | _, _ :: _ => none

def isDirectory : Entry → Bool
  | .directory _ => true
  | _ => false

end Entry

namespace FileTree

def empty : FileTree := ⟨[]⟩

def root (tree : FileTree) : Entry := .directory tree.entries

def at? (tree : FileTree) (location : Location) : Option Entry :=
  tree.root.descend? location

end FileTree

/-- The component that stays where it is. -/
def here : String := "."

def above : String := ".."

/-- The components of a path that are followed one by one. A slash at the end asks for a directory,
as a dot does. -/
def stepsOf (path : String) : List String :=
  let text := path.toList
  let names := ((Path.components text).filter fun part => part != []).map String.ofList
  if text.getLast? == some '/' then names ++ [here] else names

def linkLimit : Nat := 40

/-- The most bytes that a component may have. -/
def nameLimit : Nat := 255

def pathLimit : Nat := 4096

namespace FileTree

def follow (tree : FileTree) (links : Nat) (location : Location) (steps : List String) :
    Except SystemFault Location :=
  match steps with
  | [] => .ok location
  | name :: rest =>
      match tree.at? location with
      | some (.directory entries) =>
          if name == here then tree.follow links location rest
          else if name == above then tree.follow links location.dropLast rest
          else if nameLimit < name.utf8ByteSize then .error .nameTooLong
          else
            match entries.lookup name with
            | none => .error .noEntry
            | some (.link target) =>
                match links with
                | 0 => .error .tooManyLinks
                | links + 1 =>
                    tree.follow links (if Path.isAbsolute target.toList then [] else location)
                      (stepsOf target ++ rest)
            | some _ => tree.follow links (location ++ [name]) rest
      | _ => .error .notDirectory
termination_by (links, steps.length)

def locate (tree : FileTree) (path : String) : Except SystemFault Location :=
  if path.isEmpty then .error .noEntry
  else if pathLimit ≤ path.utf8ByteSize then .error .nameTooLong
  else tree.follow linkLimit [] (stepsOf path)

def find (tree : FileTree) (path : String) : Except SystemFault Entry := do
  let location ← tree.locate path
  match tree.at? location with
  | some entry => .ok entry
  | none => .error .noEntry

def isDirectory (tree : FileTree) (path : String) : Bool :=
  match tree.find path with
  | .ok entry => entry.isDirectory
  | .error _ => false

end FileTree

def directorySize : Nat := 4096

def Entry.size : Entry → Nat
  | .file content => content.length
  | .link _ => 0
  | .directory _ => directorySize

namespace FileTree

def open? (tree : FileTree) (path : String) : Except SystemFault Bytes := do
  match ← tree.find path with
  | .file content => .ok content
  | _ => .error .isDirectory

/-- The text of bytes: malformed ones are replaced and line ends are written as line feeds. -/
def textOf (content : Bytes) : List Char :=
  Text.normalNewlines (Text.Utf8.lossy content)

/-- Reads a file within a size limit. -/
def read (tree : FileTree) (path : String) (limit : Int) : Reading :=
  if path.toList.any fun c => c.toNat == 0 then .breakdown "embedded null byte"
  else
    match tree.find path with
    | .error .noEntry => .fault .missing
    | .error fault => .fault ⟨.unreadable, "Cannot stat file: " ++ fault.message path⟩
    | .ok entry =>
        if limit < entry.size then .fault (.oversize entry.size limit)
        else
          match tree.open? (Path.tidy path) with
          | .ok content => .text (textOf content)
          | .error fault =>
              .fault ⟨.unreadable, "Cannot read file: " ++ fault.message (Path.tidy path)⟩

end FileTree

def putEntry (name : String) (entry : Entry) : List (String × Entry) → List (String × Entry)
  | [] => [(name, entry)]
  | present :: rest =>
      if present.1 == name then (name, entry) :: rest else present :: putEntry name entry rest

/-- The entries of a directory; anything else has none. -/
def Entry.entries : Entry → List (String × Entry)
  | .directory entries => entries
  | _ => []

def Entry.put (entry : Entry) : Location → Entry → Entry
  | [], _ => entry
  | name :: rest, parent =>
      let child := (parent.entries.lookup name).getD (.directory [])
      .directory (putEntry name (entry.put rest child) parent.entries)

def Entry.remove : Location → Entry → Entry
  | [], entry => entry
  | [name], .directory entries => .directory (entries.filter fun present => present.1 != name)
  | name :: rest, .directory entries =>
      match entries.lookup name with
      | some child => .directory (putEntry name (child.remove rest) entries)
      | none => .directory entries
  | _, entry => entry

namespace FileTree

def literal (path : String) : Location :=
  (Path.normalComponents path.toList).map String.ofList

def put (tree : FileTree) (path : String) (entry : Entry) : FileTree :=
  ⟨(entry.put (literal path) tree.root).entries⟩

/-- The tree without the entry at a path. -/
def remove (tree : FileTree) (path : String) : FileTree :=
  ⟨(tree.root.remove (literal path)).entries⟩

/-- Writes a file; an existing file is written through links. -/
def write (tree : FileTree) (path : String) (content : Bytes) : FileTree :=
  match tree.locate path with
  | .ok location => ⟨((Entry.file content).put location tree.root).entries⟩
  | .error _ => tree.put path (.file content)

end FileTree

end SelectorAudit.Storage
