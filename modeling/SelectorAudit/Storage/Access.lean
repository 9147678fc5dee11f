/-!
# Access to files

What a request for a file's text can end in. A fault concerns the one file that was asked for; a
breakdown is a failure that nobody expected and that ends the whole run.
-/

namespace SelectorAudit.Storage

set_option autoImplicit false

inductive AccessReason where
  | notFound
  | unreadable
  | tooLarge
  deriving DecidableEq, Repr

def AccessReason.word : AccessReason → String
  | .notFound => "not-found"
  | .unreadable => "unreadable"
  | .tooLarge => "too-large"

/-- Why a file has no text. -/
structure AccessFault where
  reason : AccessReason
  message : String
  deriving DecidableEq, Repr

def AccessFault.missing : AccessFault :=
  ⟨.notFound, "File does not exist"⟩

def AccessFault.oversize (size : Nat) (limit : Int) : AccessFault :=
  ⟨.tooLarge, "File too large (" ++ toString size ++ " bytes > " ++ toString limit ++
    "), skipping for performance"⟩

inductive Reading where
  | text (content : List Char)
  | fault (fault : AccessFault)
  | breakdown (message : String)
  deriving DecidableEq, Repr

/-- Reads the file at a path, within a limit in bytes. The state is what the requests made so far
have left behind. -/
abbrev Reader (State : Type) := State → String → Int → Reading × State

/-- Files that are held as texts under their exact paths. -/
abbrev Shelf := List (String × String)

def Shelf.read (shelf : Shelf) : Reader (List String) := fun requests path limit =>
  let reading : Reading :=
    match shelf.lookup path with
    | none => .fault .missing
    | some text =>
        if limit < text.utf8ByteSize then .fault (.oversize text.utf8ByteSize limit)
        else .text text.toList
  (reading, requests ++ [path])

end SelectorAudit.Storage
