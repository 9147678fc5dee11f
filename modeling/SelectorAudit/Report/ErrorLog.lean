/-!
# Error records and the error log

What goes wrong during an analysis is kept as records. The log holds the most recent ones, newest
first, up to a capacity; its counts by kind cover every record that was ever added.
-/

namespace SelectorAudit.Report

set_option autoImplicit false

inductive ErrorKind where
  | stylesheetParse
  | jsxParse
  | templateParse
  | fileAccess
  | configuration
  | general
  deriving DecidableEq, Repr

def ErrorKind.word : ErrorKind → String
  | .stylesheetParse => "stylesheet-parse"
  | .jsxParse => "jsx-parse"
  | .templateParse => "template-parse"
  | .fileAccess => "file-access"
  | .configuration => "configuration"
  | .general => "general"

def ErrorKind.all : List ErrorKind :=
  [.stylesheetParse, .jsxParse, .templateParse, .fileAccess, .configuration, .general]

def ErrorKind.ofWord? (word : String) : Option ErrorKind :=
  ErrorKind.all.find? fun kind => kind.word == word

structure ErrorRecord where
  kind : ErrorKind
  message : String
  file : Option String
  details : Option String
  recoverable : Bool
  deriving DecidableEq, Repr

/-- One line about a record; an empty file name or an empty detail is left out. -/
def ErrorRecord.summary (record : ErrorRecord) : String :=
  let location :=
    match record.file with
    | some file => if file.isEmpty then "" else " [" ++ file ++ "]"
    | none => ""
  let details :=
    match record.details with
    | some details => if details.isEmpty then "" else " (" ++ details ++ ")"
    | none => ""
  record.kind.word ++ location ++ ": " ++ record.message ++ details

structure ErrorLog where
  /-- How many records are kept; none is no limit. -/
  capacity : Option Nat
  records : List ErrorRecord
  /-- How often each kind has occurred, in the order of first occurrence. -/
  counts : List (ErrorKind × Nat)
  deriving DecidableEq, Repr

def tick (kind : ErrorKind) : List (ErrorKind × Nat) → List (ErrorKind × Nat)
  | [] => [(kind, 1)]
  | entry :: rest =>
      if entry.1 = kind then (entry.1, entry.2 + 1) :: rest else entry :: tick kind rest

namespace ErrorLog

def empty (capacity : Option Nat) : ErrorLog := ⟨capacity, [], []⟩

def negativeCapacity : String := "maxlen must be non-negative"

/-- An empty log of a given capacity, unless that is negative. -/
def ofCapacity : Option Int → Except String ErrorLog
  | none => .ok (empty none)
  | some capacity =>
      if capacity < 0 then .error negativeCapacity else .ok (empty (some capacity.toNat))

def defaultCapacity : Nat := 50

/-- The log of a run that has not met an error. -/
def fresh : ErrorLog := empty (some defaultCapacity)

def add (log : ErrorLog) (record : ErrorRecord) : ErrorLog :=
  let records := record :: log.records
  { log with
    records := match log.capacity with
      | some capacity => records.take capacity
      | none => records
    counts := tick record.kind log.counts }

def addAll (log : ErrorLog) (records : List ErrorRecord) : ErrorLog :=
  records.foldl add log

/-- The number of records that are kept. -/
def size (log : ErrorLog) : Nat := log.records.length

/-- The number of records ever added. -/
def total (log : ErrorLog) : Nat :=
  log.counts.foldr (fun entry total => entry.2 + total) 0

/-- The number of records of a kind ever added. -/
def count (log : ErrorLog) (kind : ErrorKind) : Nat :=
  ((log.counts.find? fun entry => entry.1 = kind).map Prod.snd).getD 0

def byKind (log : ErrorLog) : List (String × Nat) :=
  log.counts.map fun entry => (entry.1.word, entry.2)

/-- Whether a record that is kept tells of a failure that ended a run. -/
def hasFatal (log : ErrorLog) : Bool :=
  log.records.any fun record => !record.recoverable

def hasErrors (log : ErrorLog) : Bool :=
  0 < log.total

end ErrorLog

end SelectorAudit.Report
