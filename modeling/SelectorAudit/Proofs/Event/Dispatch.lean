import Mathlib.Data.List.Induction
import Mathlib.Data.List.Nodup
import SelectorAudit.Event.Bus

/-!
# Who hears of an event, and in which order

An event goes to those who want everything, as they were registered when it was emitted. Then each
of its classes has its turn. What is registered for a class is looked up when its turn comes, after
all reactions to the calls made so far; of the listeners found, those called in an earlier turn are
left out. So however listeners react, none has two turns. If nobody reacts, the lookups are all made
in the same state, and the turns together are the lists of the classes without repetitions.
-/

namespace SelectorAudit.Event

set_option autoImplicit false

def Call.listener : Call → String
  | .call listener _ _ => listener

/-! Listeners not called yet. -/

theorem remove_all_cons (listeners called : List String) (listener : String) :
    listeners.removeAll (listener :: called) =
      (listeners.removeAll called).filter fun other => !other == listener := by
  unfold List.removeAll
  rw [List.filter_filter]
  congr 1
  funext other
  rw [List.elem_cons]
  cases other == listener <;> simp

theorem not_yet_eq (called listeners : List String) :
    notYet called listeners = (listeners.removeAll called).eraseDups := by
  induction listeners generalizing called with
  | nil => rfl
  | cons listener rest ih =>
      rw [notYet, List.cons_removeAll]
      by_cases before : called.contains listener = true
      · rw [if_pos before, if_neg (by rw [before]; decide), ih]
      · rw [if_neg before, if_pos (Bool.not_eq_true _ ▸ before), List.eraseDups_cons, ih,
          remove_all_cons]

theorem mem_not_yet {called listeners : List String} {listener : String} :
    listener ∈ notYet called listeners ↔ listener ∈ listeners ∧ listener ∉ called := by
  rw [not_yet_eq, List.mem_eraseDups]
  simp [List.removeAll]

theorem not_yet_nodup (called listeners : List String) : (notYet called listeners).Nodup := by
  induction listeners generalizing called with
  | nil => exact List.nodup_nil
  | cons listener rest ih =>
      rw [notYet]
      split
      · exact ih called
      · apply List.nodup_cons.mpr
        constructor
        · intro again
          exact (mem_not_yet.mp again).2 List.mem_cons_self
        · exact ih (listener :: called)

theorem not_yet_append (called first second : List String) :
    notYet called (first ++ second) =
      notYet called first ++ notYet (called ++ notYet called first) second := by
  have apart : (second.removeAll called).removeAll (first.removeAll called) =
      second.removeAll (called ++ notYet called first) := by
    unfold List.removeAll
    rw [List.filter_filter]
    apply List.filter_congr
    intro other _
    have same : (first.filter fun listener => !List.elem listener called).contains other =
        (notYet called first).contains other := by
      rw [Bool.eq_iff_iff, List.contains_iff_mem, List.contains_iff_mem, mem_not_yet]
      simp
    simp only [List.elem_eq_contains, List.contains_append] at same ⊢
    rw [same]
    cases called.contains other <;> simp
  have divided : (first ++ second).removeAll called =
      first.removeAll called ++ second.removeAll called := List.filter_append ..
  rw [not_yet_eq, divided, List.eraseDups_append, apart, ← not_yet_eq, ← not_yet_eq]

/-! Calls in order. -/

section

variable {react : React} {event : Event} {exchange final : Exchange} {calls : List Call}

theorem call_each_cons {listener : String} {rest : List String} :
    callEach react event exchange (listener :: rest) = some (final, calls) ↔
      ∃ after caused later, react listener exchange = some (after, caused) ∧
        callEach react event after rest = some (final, later) ∧
        calls = .call listener event caused :: later := by
  constructor
  · intro made
    rw [callEach] at made
    split at made
    · cases made
    · next after caused reacted =>
        split at made
        · cases made
        · next ending later behind =>
            cases made
            exact ⟨after, caused, later, reacted, behind, rfl⟩
  · rintro ⟨after, caused, later, reacted, behind, rfl⟩
    rw [callEach, reacted]
    dsimp only
    rw [behind]

theorem call_each_listeners {listeners : List String}
    (made : callEach react event exchange listeners = some (final, calls)) :
    calls.map Call.listener = listeners := by
  induction listeners generalizing exchange calls with
  | nil =>
      cases made
      rfl
  | cons listener rest ih =>
      obtain ⟨after, caused, later, _, behind, rfl⟩ := call_each_cons.mp made
      rw [List.map_cons, ih behind]
      rfl

theorem call_each_append {middle : Exchange} {first second : List String} {later : List Call}
    (before : callEach react event exchange first = some (middle, calls))
    (behind : callEach react event middle second = some (final, later)) :
    callEach react event exchange (first ++ second) = some (final, calls ++ later) := by
  induction first generalizing exchange calls with
  | nil =>
      cases before
      exact behind
  | cons listener rest ih =>
      obtain ⟨after, caused, more, reacted, inner, rfl⟩ := call_each_cons.mp before
      exact call_each_cons.mpr ⟨after, caused, more ++ later, reacted, ih inner, rfl⟩

end

def Leads (react : React) (event : Event) (exchange : Exchange) (made : List Call)
    (moment : Exchange) : Prop :=
  callEach react event exchange (made.map Call.listener) = some (moment, made)

theorem leads_of_call_each {react : React} {event : Event} {exchange final : Exchange}
    {listeners : List String} {calls : List Call}
    (made : callEach react event exchange listeners = some (final, calls)) :
    Leads react event exchange calls final := by
  rw [Leads, call_each_listeners made, made]

theorem Leads.append {react : React} {event : Event} {exchange middle moment : Exchange}
    {calls later : List Call} (before : Leads react event exchange calls middle)
    (behind : Leads react event middle later moment) :
    Leads react event exchange (calls ++ later) moment := by
  rw [Leads, List.map_append]
  exact call_each_append before behind

/-! Turns. -/

structure Turn where
  eventClass : EventClass
  calls : List Call

/-- All calls of turns, in order. -/
def turnCalls (turns : List Turn) : List Call :=
  turns.flatMap Turn.calls

/-- When a class has its turn, the listeners that are then registered for it and have not been
called are called, in the order of their registrations. `called` are the listeners of turns before
these. -/
def TakeTurns (react : React) (event : Event) (called : List String) (exchange : Exchange)
    (turns : List Turn) : Prop :=
  ∀ before turn behind, turns = before ++ turn :: behind →
    ∃ moment, Leads react event exchange (turnCalls before) moment ∧
      turn.calls.map Call.listener =
        ((moment.bus.listeners turn.eventClass).removeAll
          (called ++ (turnCalls before).map Call.listener)).eraseDups

section

variable {react : React} {event : Event} {exchange final : Exchange} {calls : List Call}

theorem call_classes_cons {called : List String} {eventClass : EventClass}
    {rest : List EventClass} :
    callClasses react event called exchange (eventClass :: rest) = some (final, calls) ↔
      ∃ after own later,
        callEach react event exchange (notYet called (exchange.bus.listeners eventClass)) =
          some (after, own) ∧
        callClasses react event (called ++ notYet called (exchange.bus.listeners eventClass)) after
          rest = some (final, later) ∧
        calls = own ++ later := by
  constructor
  · intro made
    rw [callClasses] at made
    split at made
    · cases made
    · next after own first =>
        split at made
        · cases made
        · next ending later behind =>
            cases made
            exact ⟨after, own, later, first, behind, rfl⟩
  · rintro ⟨after, own, later, first, behind, rfl⟩
    rw [callClasses, first]
    dsimp only
    rw [behind]

theorem call_classes_leads {classes : List EventClass} {called : List String}
    (made : callClasses react event called exchange classes = some (final, calls)) :
    Leads react event exchange calls final := by
  induction classes generalizing called exchange calls with
  | nil =>
      cases made
      rfl
  | cons eventClass rest ih =>
      obtain ⟨after, own, later, first, behind, rfl⟩ := call_classes_cons.mp made
      exact (leads_of_call_each first).append (ih behind)

theorem call_classes_turns {classes : List EventClass} {called : List String}
    (made : callClasses react event called exchange classes = some (final, calls)) :
    ∃ turns, turns.map Turn.eventClass = classes ∧ calls = turnCalls turns ∧
      TakeTurns react event called exchange turns := by
  induction classes generalizing called exchange calls with
  | nil =>
      cases made
      exact ⟨[], rfl, rfl, fun before turn behind shape => by simp at shape⟩
  | cons eventClass rest ih =>
      obtain ⟨after, own, later, first, behind, rfl⟩ := call_classes_cons.mp made
      obtain ⟨turns, classesOf, rfl, taken⟩ := ih behind
      refine ⟨⟨eventClass, own⟩ :: turns, congrArg _ classesOf, rfl, ?_⟩
      intro before turn more shape
      cases before with
      | nil =>
          obtain ⟨rfl, rfl⟩ := List.cons.inj shape
          refine ⟨exchange, rfl, ?_⟩
          rw [call_each_listeners first, not_yet_eq]
          simp [turnCalls]
      | cons head before =>
          obtain ⟨rfl, further⟩ := List.cons.inj shape
          obtain ⟨moment, leads, heard⟩ := taken before turn more further
          refine ⟨moment, (leads_of_call_each first).append leads, ?_⟩
          rw [heard, ← call_each_listeners first]
          simp [turnCalls]

end

/-- No listener is called twice in turns, nor one that was called before them. -/
theorem TakeTurns.nodup {react : React} {event : Event} {called : List String}
    {exchange : Exchange} {turns : List Turn}
    (taken : TakeTurns react event called exchange turns) :
    ((turnCalls turns).map Call.listener).Nodup := by
  -- From the end: the last turn leaves out whoever was called in the turns before it.
  induction turns using List.reverseRecOn with
  | nil => exact List.nodup_nil
  | append_singleton before turn ih =>
      obtain ⟨moment, _, heard⟩ := taken before turn [] rfl
      have shape : (turnCalls (before ++ [turn])).map Call.listener =
          (turnCalls before).map Call.listener ++ turn.calls.map Call.listener := by
        simp [turnCalls]
      have earlier : ((turnCalls before).map Call.listener).Nodup := by
        apply ih
        intro outer other behind divided
        exact taken outer other (behind ++ [turn]) (by rw [divided]; simp)
      rw [shape, heard, ← not_yet_eq]
      apply earlier.append (not_yet_nodup _ _)
      intro listener early late
      exact (mem_not_yet.mp late).2 (List.mem_append_right _ early)

theorem TakeTurns.registered {react : React} {event : Event} {called : List String}
    {exchange : Exchange} {turns : List Turn}
    (taken : TakeTurns react event called exchange turns) {call : Call}
    (member : call ∈ turnCalls turns) :
    ∃ made later moment, turnCalls turns = made ++ later ∧ call ∈ later ∧
      Leads react event exchange made moment ∧
      ∃ eventClass ∈ turns.map Turn.eventClass,
        ⟨eventClass, call.listener⟩ ∈ moment.bus.subscriptions := by
  obtain ⟨turn, among, own⟩ := List.mem_flatMap.mp member
  obtain ⟨before, behind, rfl⟩ := List.append_of_mem among
  obtain ⟨moment, leads, heard⟩ := taken before turn behind rfl
  have listed : call.listener ∈ moment.bus.listeners turn.eventClass := by
    have inside : call.listener ∈ turn.calls.map Call.listener := List.mem_map_of_mem own
    rw [heard, ← not_yet_eq] at inside
    exact (mem_not_yet.mp inside).1
  refine ⟨turnCalls before, turnCalls (turn :: behind), moment, ?_, ?_, leads, turn.eventClass,
    List.mem_map_of_mem among, ?_⟩
  · simp [turnCalls]
  · exact List.mem_append_left _ own
  · rw [Bus.listeners, List.mem_map] at listed
    obtain ⟨subscription, registered, same⟩ := listed
    rw [List.mem_filter, decide_eq_true_iff] at registered
    rw [← same, ← registered.2]
    exact registered.1

/-! Without reactions. -/

section

variable {react : React}
  (silent : ∀ listener exchange, react listener exchange = some (exchange, []))
  (event : Event) (exchange : Exchange)

include silent

theorem call_each_silent (listeners : List String) :
    callEach react event exchange listeners =
      some (exchange, listeners.map fun listener => .call listener event []) := by
  induction listeners with
  | nil => rfl
  | cons listener rest ih => exact call_each_cons.mpr ⟨exchange, [], _, silent _ _, ih, rfl⟩

theorem call_classes_silent (called : List String) (classes : List EventClass) :
    callClasses react event called exchange classes =
      some (exchange, (notYet called (classes.flatMap exchange.bus.listeners)).map
        fun listener => .call listener event []) := by
  induction classes generalizing called with
  | nil => rfl
  | cons eventClass rest ih =>
      apply call_classes_cons.mpr
      refine ⟨exchange, _, _, call_each_silent silent event exchange _, ih _, ?_⟩
      rw [List.flatMap_cons, not_yet_append, List.map_append]

end

/-- What listeners do when they are called, where reactions to reactions go to a given depth. -/
def respond (reactions : Reactions) (depth : Nat) : React :=
  fun listener exchange => perform reactions depth exchange (reactions listener)

theorem emit_unanswered {reactions : Reactions} (quiet : ∀ listener, reactions listener = [])
    (depth : Nat) (event : Event) (exchange : Exchange) :
    emit reactions (depth + 1) event exchange =
      some (exchange, (exchange.bus.catchAlls ++
        (event.classes.flatMap exchange.bus.listeners).eraseDups).map
          fun listener => .call listener event []) := by
  have silent : ∀ listener exchange,
      respond reactions depth listener exchange = some (exchange, []) := by
    intro listener exchange
    rw [respond, quiet]
    rfl
  have unfolded : emit reactions (depth + 1) event exchange =
      deliver (respond reactions depth) event exchange := rfl
  have fresh (listeners : List String) : listeners.removeAll [] = listeners := by
    simp [List.removeAll]
  rw [unfolded, deliver, call_each_silent silent]
  dsimp only
  rw [call_classes_silent silent, not_yet_eq, fresh, List.map_append]

/-! The theorem. -/

/-- The calls that one event causes by itself, without those that reactions to them cause: first to
those who want everything, then turn by turn. -/
structure Dispatched (react : React) (event : Event) (exchange final : Exchange)
    (general : List Call) (turns : List Turn) : Prop where
  leads : Leads react event exchange (general ++ turnCalls turns) final
  /-- Those who want everything are called as they were registered when the event was emitted. -/
  first : general.map Call.listener = exchange.bus.catchAlls
  once : ((turnCalls turns).map Call.listener).Nodup
  classes : turns.map Turn.eventClass = event.classes
  taken : ∃ settled, Leads react event exchange general settled ∧
    TakeTurns react event [] settled turns
  registered : ∀ call ∈ turnCalls turns, ∃ made later moment,
    general ++ turnCalls turns = made ++ later ∧ call ∈ later ∧
    Leads react event exchange made moment ∧
    ∃ eventClass ∈ event.classes, ⟨eventClass, call.listener⟩ ∈ moment.bus.subscriptions

theorem deliver_dispatches {react : React} {event : Event} {exchange final : Exchange}
    {calls : List Call} (made : deliver react event exchange = some (final, calls)) :
    ∃ general turns, calls = general ++ turnCalls turns ∧
      Dispatched react event exchange final general turns := by
  rw [deliver] at made
  split at made
  · cases made
  · next settled general first =>
      split at made
      · cases made
      · next ending later behind =>
          cases made
          obtain ⟨turns, classes, rfl, taken⟩ := call_classes_turns behind
          have leads := leads_of_call_each first
          refine ⟨general, turns, rfl, leads.append (call_classes_leads behind),
            call_each_listeners first, taken.nodup, classes, ⟨settled, leads, taken⟩, ?_⟩
          intro call member
          obtain ⟨before, rest, moment, divided, behindMoment, further, eventClass, among,
            registered⟩ := taken.registered member
          rw [classes] at among
          refine ⟨general ++ before, rest, moment, ?_, behindMoment, leads.append further,
            eventClass, among, registered⟩
          rw [divided, List.append_assoc]

/-- An event is heard first by those who want everything, as often as they were registered when it
was emitted, and then by each other listener at most once, however listeners react; and by no
listener that was never registered for one of its classes. If nobody reacts, it is heard by those
who want everything and then by the listeners of its classes from the most specific on, where only
the first occurrence of a listener counts. -/
theorem emit_calls_each_once (reactions : Reactions) (depth : Nat) (event : Event)
    (exchange : Exchange) :
    (∀ final calls, emit reactions (depth + 1) event exchange = some (final, calls) →
      ∃ general turns, calls = general ++ turnCalls turns ∧
        Dispatched (respond reactions depth) event exchange final general turns) ∧
    ((∀ listener, reactions listener = []) →
      emit reactions (depth + 1) event exchange =
        some (exchange, (exchange.bus.catchAlls ++
          (event.classes.flatMap exchange.bus.listeners).eraseDups).map
            fun listener => .call listener event [])) := by
  constructor
  · intro final calls made
    exact deliver_dispatches made
  · intro quiet
    exact emit_unanswered quiet depth event exchange

/-- A bus on which `log` wants everything, twice, and `a` wants two classes of the same event. -/
def busyExchange : Exchange where
  bus :=
    { subscriptions := [⟨.started, "a"⟩, ⟨.started, "b"⟩, ⟨.run, "a"⟩, ⟨.fileAnalyzed, "c"⟩]
      catchAlls := ["log", "log"] }
  handles := [("hb", ⟨.started, "b"⟩)]

/-- When `a` is called, it takes back the registration of `b`, registers `d` for a class whose turn
is still to come, and emits another event. -/
def busyReactions : Reactions := fun listener =>
  if listener = "a" then
    [.unsubscribe "hb", .subscribe ⟨.run, "d"⟩ "hd",
      .emit (.fileAnalyzed "/p/a.css" .stylesheet true 1)]
  else []

/-- The listener `b` is still called, `a` is not called again, and `d` is called in its turn. -/
theorem emit_calls_each_once_busy :
    (∃ final calls, emit busyReactions 3 (.started "/p" 1) busyExchange = some (final, calls) ∧
      calls.map Call.listener = ["log", "log", "a", "b", "d"] ∧
      ∃ general turns, calls = general ++ turnCalls turns ∧
        Dispatched (respond busyReactions 2) (.started "/p" 1) busyExchange final general turns) ∧
    emit (fun _ => []) 1 (.started "/p" 1) busyExchange =
      some (busyExchange, ["log", "log", "a", "b"].map fun listener =>
        .call listener (.started "/p" 1) []) := by
  constructor
  · exact ⟨_, _, rfl, rfl, (emit_calls_each_once busyReactions 2 _ busyExchange).1 _ _ rfl⟩
  · rw [(emit_calls_each_once (fun _ => []) 0 _ busyExchange).2 fun _ => rfl]
    rfl

end SelectorAudit.Event
