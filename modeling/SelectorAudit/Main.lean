import SelectorAudit.CommandLine.Run

/-!
# The program

The outer layer: it takes a picture of the files that a command line names, runs the command line on
the picture, and prints what comes out. A run may turn out to ask for files outside the picture;
these are added, and the run is made again.
-/

namespace SelectorAudit

set_option autoImplicit false

open Storage (Entry FileTree)

/-- An entry of the disk with its path. -/
structure Shot where
  path : String
  entry : Entry

/-- A link that leads nowhere: no entry of a disk has such a name. -/
def danglingLink : Entry := .link "/\x00"

/-- Adds an entry to a picture; a directory that is there already keeps its entries. -/
def addShot (tree : FileTree) (shot : Shot) : FileTree :=
  if shot.entry.isDirectory && tree.isDirectory shot.path then tree
  else tree.put shot.path shot.entry

def orNothing (look : IO (List Shot)) : IO (List Shot) := do
  try look
  catch _ => return []

/-- What a link of the disk stands for: a file counts as if it stood in its place. -/
def linkShots (item : IO.FS.DirEntry) : IO (List Shot) := do
  let path := item.path.toString
  if !(← item.path.pathExists) then return [⟨path, danglingLink⟩]
  let target ← IO.FS.realPath item.path
  if ← target.isDir then
    return [⟨target.toString, .directory []⟩, ⟨path, .link target.toString⟩]
  else return [⟨path, .file (← IO.FS.readBinFile target).toList⟩]

/-- Everything in and below an entry of a directory, links not followed. -/
partial def itemShots (item : IO.FS.DirEntry) : IO (List Shot) := orNothing do
  match (← item.path.symlinkMetadata).type with
  | .symlink => linkShots item
  | .dir =>
      let inner ← (← item.path.readDir).toList.flatMapM itemShots
      return ⟨item.path.toString, .directory []⟩ :: inner
  | _ => return [⟨item.path.toString, .file (← IO.FS.readBinFile item.path).toList⟩]

/-- Everything that a path of the disk names, where it really is and where it is asked for. -/
def pathShots (directory path : String) : IO (List Shot) := orNothing do
  let asked := Path.resolve directory path
  let real ← IO.FS.realPath (Path.join directory path)
  let byName : List Shot := if real.toString == asked then [] else [⟨asked, .link real.toString⟩]
  if ← real.isDir then
    let inner ← (← real.readDir).toList.flatMapM itemShots
    return ⟨real.toString, .directory []⟩ :: inner ++ byName
  else return ⟨real.toString, .file (← IO.FS.readBinFile real).toList⟩ :: byName

/-- The words of a command line that may be paths: also those behind an equals sign. -/
def candidatePaths (words : List String) : List String :=
  words.flatMap fun word => word :: (CommandLine.splitWord word).2.toList

/-- What is left of a stack of a thousand levels where a file of options is read. -/
def spareLevels : Nat := 984

partial def runSettled (directory : String) (words tried : List String) (tree : FileTree) :
    IO CommandLine.Transcript := do
  let transcript := CommandLine.run ⟨tree, directory, spareLevels⟩ words
  let wanted := transcript.missing.filter fun path => !tried.contains path
  if wanted.isEmpty then return transcript
  let found ← wanted.flatMapM (pathShots directory)
  runSettled directory words (tried ++ wanted) (found.foldl addShot tree)

end SelectorAudit

open SelectorAudit in
def main (words : List String) : IO UInt32 := do
  let directory := (← IO.currentDir).toString
  let shots ← (candidatePaths words).flatMapM (pathShots directory)
  let start := addShot Storage.FileTree.empty ⟨directory, .directory []⟩
  let transcript ← runSettled directory words [] (shots.foldl addShot start)
  IO.print transcript.stdout
  IO.eprint transcript.stderr
  match transcript.ending with
  | .crash failure => IO.eprintln failure.line
  | .exit _ => pure ()
  return transcript.ending.code.toUInt32
