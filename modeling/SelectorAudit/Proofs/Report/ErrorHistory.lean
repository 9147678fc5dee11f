import Mathlib.Data.List.Induction
import SelectorAudit.Proofs.Report.OrderedTable
import SelectorAudit.Report.ErrorLog

/-!
# An error log and the history behind it

A log keeps the newest records only, but it is asked about all that were ever added. Beside it
stands a log without limits, the full history in the order of time, that is given the same requests.
The two give the same answers at every moment, and everything the bounded log shows can be told from
the history: the records it keeps are the newest of the history, and its counts are those of the
history, also of records that have long been dropped.
-/

namespace SelectorAudit.Report

set_option autoImplicit false

/-- What is asked of a log: to add an error, given by its parts or as a record, or to count those of
a kind. -/
inductive LogRequest where
  | add (kind : ErrorKind) (message : String) (file details : Option String) (recoverable : Bool)
  | record (record : ErrorRecord)
  | count (kind : ErrorKind)
  deriving DecidableEq, Repr

/-- What a request does to a log, and the answer if it asks for one. -/
def ErrorLog.perform (log : ErrorLog) : LogRequest → ErrorLog × Option Nat
  | .add kind message file details recoverable =>
      (log.add ⟨kind, message, file, details, recoverable⟩, none)
  | .record record => (log.add record, none)
  | .count kind => (log, some (log.count kind))

/-- All records ever added, the oldest first. -/
abbrev ErrorHistory := List ErrorRecord

namespace ErrorHistory

def occurrences (history : ErrorHistory) (kind : ErrorKind) : Nat :=
  history.countP fun record => record.kind = kind

def kinds (history : ErrorHistory) : List ErrorKind :=
  (history.map ErrorRecord.kind).eraseDups

/-- What a request does to the full history, and the answer that the history gives. -/
def perform (history : ErrorHistory) : LogRequest → ErrorHistory × Option Nat
  | .add kind message file details recoverable =>
      (history ++ [⟨kind, message, file, details, recoverable⟩], none)
  | .record record => (history ++ [record], none)
  | .count kind => (history, some (history.occurrences kind))

end ErrorHistory

/-- Requests made one after the other: the state they leave and their answers in order. -/
def execute {State : Type} (perform : State → LogRequest → State × Option Nat) (state : State) :
    List LogRequest → State × List Nat
  | [] => (state, [])
  | request :: rest =>
      let next := perform state request
      let later := execute perform next.1 rest
      (later.1, next.2.toList ++ later.2)

/-! The records that are kept. -/

def keptSize (capacity : Option Nat) (total : Nat) : Nat :=
  match capacity with
  | some capacity => min capacity total
  | none => total

/-- The newest records as far as there is room, where the newest stand first. -/
def kept (capacity : Option Nat) (records : List ErrorRecord) : List ErrorRecord :=
  records.take (keptSize capacity records.length)

theorem kept_some (capacity : Nat) (records : List ErrorRecord) :
    kept (some capacity) records = records.take capacity :=
  List.take_eq_take_min.symm

theorem kept_none (records : List ErrorRecord) : kept none records = records :=
  List.take_length

theorem add_records (log : ErrorLog) (record : ErrorRecord) :
    (log.add record).records = kept log.capacity (record :: log.records) := by
  cases limit : log.capacity with
  | none => simp [ErrorLog.add, limit, kept_none]
  | some capacity => simp [ErrorLog.add, limit, kept_some]

/-- What has been dropped would not be kept later either. -/
theorem kept_behind_kept (capacity : Option Nat) (newer older : List ErrorRecord) :
    kept capacity (newer ++ kept capacity older) = kept capacity (newer ++ older) := by
  cases capacity with
  | none => rw [kept_none older]
  | some capacity =>
      rw [kept_some, kept_some, kept_some, List.take_append, List.take_append, List.take_take,
        Nat.min_eq_left (Nat.sub_le _ _)]

theorem add_all_records (log : ErrorLog) (history : ErrorHistory)
    (full : kept log.capacity log.records = log.records) :
    (log.addAll history).records = kept log.capacity (history.reverse ++ log.records) := by
  induction history generalizing log with
  | nil => exact full.symm
  | cons record later ih =>
      have added := add_records log record
      have fullStill : kept log.capacity (log.add record).records = (log.add record).records := by
        rw [added]
        exact kept_behind_kept log.capacity [] (record :: log.records)
      have rest := ih (log.add record) fullStill
      rw [added] at rest
      rw [List.reverse_cons, List.append_assoc, List.singleton_append]
      exact rest.trans (kept_behind_kept log.capacity later.reverse (record :: log.records))

theorem newest_records (capacity : Option Nat) (history : ErrorHistory) :
    ((ErrorLog.empty capacity).addAll history).records =
      history.reverse.take (keptSize capacity history.length) := by
  have newest := add_all_records (.empty capacity) history List.take_nil
  change _ = kept capacity (history.reverse ++ []) at newest
  rw [newest, kept, List.append_nil, List.length_reverse]

theorem kept_size_le (capacity : Option Nat) (total : Nat) : keptSize capacity total ≤ total := by
  cases capacity with
  | none => exact Nat.le_refl total
  | some capacity => exact Nat.min_le_right capacity total

/-! The counts. -/

theorem tick_eq_amend (kind : ErrorKind) (counts : List (ErrorKind × Nat)) :
    tick kind counts = amend kind (fun count => count.getD 0 + 1) counts := by
  induction counts with
  | nil => rfl
  | cons entry rest ih =>
      rw [tick, amend, ih]
      split
      · rename_i same
        rw [same]
        rfl
      · rfl

theorem count_eq_lookup (log : ErrorLog) (kind : ErrorKind) :
    log.count kind = (log.counts.lookup kind).getD 0 := by
  unfold ErrorLog.count
  induction log.counts with
  | nil => rfl
  | cons entry rest ih =>
      obtain ⟨first, count⟩ := entry
      rw [lookup_entry]
      by_cases same : first = kind
      · simp [same]
      · rw [if_neg (Ne.symm same), ← ih, List.find?_cons_of_neg (by simpa using same)]

theorem add_count (log : ErrorLog) (record : ErrorRecord) (kind : ErrorKind) :
    (log.add record).count kind = log.count kind + if record.kind = kind then 1 else 0 := by
  rw [count_eq_lookup, count_eq_lookup]
  show ((tick record.kind log.counts).lookup kind).getD 0 = _
  rw [tick_eq_amend, amend_lookup]
  by_cases same : kind = record.kind
  · rw [if_pos same, if_pos same.symm, same]
    rfl
  · rw [if_neg same, if_neg (Ne.symm same)]
    rfl

theorem tick_total (kind : ErrorKind) (counts : List (ErrorKind × Nat)) :
    (tick kind counts).foldr (fun entry total => entry.2 + total) 0 =
      counts.foldr (fun entry total => entry.2 + total) 0 + 1 := by
  induction counts with
  | nil => rfl
  | cons entry rest ih =>
      rw [tick]
      split
      · simp only [List.foldr_cons]
        omega
      · simp only [List.foldr_cons]
        omega

theorem add_total (log : ErrorLog) (record : ErrorRecord) :
    (log.add record).total = log.total + 1 :=
  tick_total record.kind log.counts

/-! The log that a history leaves behind. -/

theorem add_all_snoc (log : ErrorLog) (history : ErrorHistory) (record : ErrorRecord) :
    log.addAll (history ++ [record]) = (log.addAll history).add record := by
  rw [ErrorLog.addAll, List.foldl_append]
  rfl

structure ErrorLog.Covers (log : ErrorLog) (history : ErrorHistory) : Prop where
  total : log.total = history.length
  count : ∀ kind, log.count kind = history.occurrences kind
  kinds : log.counts.map Prod.fst = history.kinds
  distinct : history.kinds.Nodup

theorem empty_covers (capacity : Option Nat) : (ErrorLog.empty capacity).Covers [] :=
  ⟨rfl, fun _ => rfl, rfl, List.nodup_nil⟩

theorem add_covers {log : ErrorLog} {history : ErrorHistory} (covers : log.Covers history)
    (record : ErrorRecord) : (log.add record).Covers (history ++ [record]) := by
  have listed :
      (log.add record).counts.map Prod.fst = ErrorHistory.kinds (history ++ [record]) := by
    show (tick record.kind log.counts).map Prod.fst = _
    rw [tick_eq_amend, amend_keys, covers.kinds, ErrorHistory.kinds, ErrorHistory.kinds,
      List.map_append, List.map_singleton, erase_dups_snoc]
  refine ⟨?_, ?_, listed, ?_⟩
  · rw [add_total, covers.total, List.length_append, List.length_singleton]
  · intro kind
    rw [add_count, covers.count, ErrorHistory.occurrences, ErrorHistory.occurrences,
      List.countP_append, List.countP_singleton]
    simp only [decide_eq_true_eq]
  · rw [← listed]
    show ((tick record.kind log.counts).map Prod.fst).Nodup
    rw [tick_eq_amend]
    apply amend_distinct
    rw [covers.kinds]
    exact covers.distinct

theorem add_all_covers (capacity : Option Nat) (history : ErrorHistory) :
    ((ErrorLog.empty capacity).addAll history).Covers history := by
  induction history using List.reverseRecOn with
  | nil => exact empty_covers capacity
  | append_singleton history record ih =>
      rw [add_all_snoc]
      exact add_covers ih record

theorem ErrorLog.Covers.counts {log : ErrorLog} {history : ErrorHistory}
    (covers : log.Covers history) :
    log.counts = history.kinds.map fun kind => (kind, history.occurrences kind) := by
  have distinct : (log.counts.map Prod.fst).Nodup := by
    rw [covers.kinds]
    exact covers.distinct
  have spelled := table_spelled_out distinct 0
  rw [covers.kinds] at spelled
  rw [spelled]
  apply List.map_congr_left
  intro kind _
  rw [← count_eq_lookup, covers.count]

/-! Log and history under the same requests. -/

theorem perform_refines (capacity : Option Nat) (history : ErrorHistory) (request : LogRequest) :
    ((ErrorLog.empty capacity).addAll history).perform request =
      ((ErrorLog.empty capacity).addAll (history.perform request).1,
        (history.perform request).2) := by
  cases request with
  | add kind message file details recoverable =>
      rw [ErrorLog.perform, ErrorHistory.perform, add_all_snoc]
  | record record => rw [ErrorLog.perform, ErrorHistory.perform, add_all_snoc]
  | count kind =>
      rw [ErrorLog.perform, ErrorHistory.perform, (add_all_covers capacity history).count]

theorem execute_refines (capacity : Option Nat) (history : ErrorHistory)
    (requests : List LogRequest) :
    execute ErrorLog.perform ((ErrorLog.empty capacity).addAll history) requests =
      ((ErrorLog.empty capacity).addAll (execute ErrorHistory.perform history requests).1,
        (execute ErrorHistory.perform history requests).2) := by
  induction requests generalizing history with
  | nil => rfl
  | cons request rest ih =>
      simp only [execute, perform_refines, ih]

/-! What a log shows. -/

theorem of_word_of_kind (kind : ErrorKind) : ErrorKind.ofWord? kind.word = some kind := by
  cases kind <;> decide

theorem word_injective : Function.Injective ErrorKind.word := by
  intro first second same
  have found := of_word_of_kind first
  rw [same, of_word_of_kind second] at found
  exact (Option.some.inj found).symm

/-- No two counts stand under one word. -/
theorem by_kind_distinct {log : ErrorLog} {history : ErrorHistory} (covers : log.Covers history) :
    (log.byKind.map Prod.fst).Nodup := by
  have words : log.byKind.map Prod.fst = (log.counts.map Prod.fst).map ErrorKind.word := by
    simp [ErrorLog.byKind, Function.comp_def]
  rw [words, covers.kinds]
  exact covers.distinct.map word_injective

/-- An error log refines the full history. Whatever its capacity, none included, and whatever is
asked of it, a log answers every count as the full history does at that moment, and counting leaves
no trace. It keeps the newest records, as many as there is room for, the newest first; it knows how
many there ever were, even if it keeps none of them; and it lists each kind that ever occurred under
its word, once, in the order of first occurrence and with its full count. -/
theorem error_log_refines_history (capacity : Option Nat) (requests : List LogRequest) :
    ErrorLog.ofCapacity (capacity.map Int.ofNat) = .ok (.empty capacity) ∧
    (execute ErrorLog.perform (.empty capacity) requests).2 =
      (execute ErrorHistory.perform [] requests).2 ∧
    let log := (execute ErrorLog.perform (.empty capacity) requests).1
    let history := (execute ErrorHistory.perform [] requests).1
    log.records = history.reverse.take (keptSize capacity history.length) ∧
    log.size = keptSize capacity history.length ∧
    log.total = history.length ∧
    log.hasErrors = decide (0 < history.length) ∧
    (∀ kind, log.perform (.count kind) = (log, some (history.occurrences kind))) ∧
    log.byKind = (history.kinds.map fun kind => (kind.word, history.occurrences kind)) ∧
    (log.byKind.map Prod.fst).Nodup := by
  have created : ErrorLog.ofCapacity (capacity.map Int.ofNat) = .ok (.empty capacity) := by
    cases capacity <;> rfl
  have run := execute_refines capacity [] requests
  change execute ErrorLog.perform (.empty capacity) requests = _ at run
  rw [run]
  refine ⟨created, rfl, ?_⟩
  intro log history
  have covers : log.Covers history := add_all_covers capacity history
  have records : log.records = history.reverse.take (keptSize capacity history.length) :=
    newest_records capacity history
  refine ⟨records, ?_, covers.total, ?_, ?_, ?_, by_kind_distinct covers⟩
  · rw [ErrorLog.size, records, List.length_take, List.length_reverse,
      Nat.min_eq_left (kept_size_le capacity history.length)]
  · rw [ErrorLog.hasErrors, covers.total]
  · intro kind
    rw [ErrorLog.perform, covers.count]
  · rw [ErrorLog.byKind, covers.counts, List.map_map]
    rfl

end SelectorAudit.Report
