import SelectorAudit.Event.Basic

/-!
# The event bus

Listeners subscribe to a class of events or to everything. An event goes first to those who want
everything, as they were when it was emitted, and then, class by class from the most specific on, to
the subscribers of the class, each listener at most once. A listener may react: what it then does to
the bus is done before the next listener is called. The calls of an event are kept as a forest, in
which each call holds those that its reaction caused.
-/

namespace SelectorAudit.Event

set_option autoImplicit false

/-- The registration of a listener for a class; it is also what takes a registration back. -/
structure Subscription where
  eventClass : EventClass
  listener : String
  deriving DecidableEq, Repr

structure Bus where
  subscriptions : List Subscription
  catchAlls : List String
  deriving DecidableEq, Repr

namespace Bus

def empty : Bus := ⟨[], []⟩

def subscribe (bus : Bus) (subscription : Subscription) : Bus :=
  { bus with subscriptions := bus.subscriptions ++ [subscription] }

/-- Takes back the earliest registration of the same listener for the same class. -/
def unsubscribe (bus : Bus) (subscription : Subscription) : Bus :=
  { bus with subscriptions := bus.subscriptions.erase subscription }

def onAll (bus : Bus) (listener : String) : Bus :=
  { bus with catchAlls := bus.catchAlls ++ [listener] }

/-- The listeners registered for a class, in order and as often as they are registered. -/
def listeners (bus : Bus) (eventClass : EventClass) : List String :=
  (bus.subscriptions.filter fun subscription => subscription.eventClass = eventClass).map
    Subscription.listener

end Bus

/-- What can be done to a bus. A handle is a name under which a registration is remembered. -/
inductive Action where
  | subscribe (subscription : Subscription) (handle : String)
  | unsubscribe (handle : String)
  | onAll (listener : String)
  | emit (event : Event)
  deriving DecidableEq, Repr

/-- A bus with the handles that have been given out. -/
structure Exchange where
  bus : Bus
  handles : List (String × Subscription)
  deriving DecidableEq, Repr

def Exchange.empty : Exchange := ⟨Bus.empty, []⟩

/-- A call of a listener and the calls that its reaction caused. -/
inductive Call where
  | call (listener : String) (event : Event) (caused : List Call)

mutual

def Call.sequence : Call → List (String × Event)
  | .call listener event caused => (listener, event) :: sequenceOf caused

def sequenceOf : List Call → List (String × Event)
  | [] => []
  | first :: rest => first.sequence ++ sequenceOf rest

end

/-- A computation on the exchange that makes calls; none if its reactions do not end in time. -/
abbrev Traced := Exchange → Option (Exchange × List Call)

/-- What a listener does when it is called. -/
abbrev React := String → Traced

def callEach (react : React) (event : Event) (exchange : Exchange) :
    List String → Option (Exchange × List Call)
  | [] => some (exchange, [])
  | listener :: rest =>
      match react listener exchange with
      | none => none
      | some (after, caused) =>
          match callEach react event after rest with
          | none => none
          | some (final, calls) => some (final, .call listener event caused :: calls)

def notYet (called : List String) : List String → List String
  | [] => []
  | listener :: rest =>
      if called.contains listener then notYet called rest
      else listener :: notYet (listener :: called) rest

/-- Calls the subscribers of each class in turn, each listener at most once. -/
def callClasses (react : React) (event : Event) (called : List String) (exchange : Exchange) :
    List EventClass → Option (Exchange × List Call)
  | [] => some (exchange, [])
  | eventClass :: rest =>
      let fresh := notYet called (exchange.bus.listeners eventClass)
      match callEach react event exchange fresh with
      | none => none
      | some (after, calls) =>
          match callClasses react event (called ++ fresh) after rest with
          | none => none
          | some (final, later) => some (final, calls ++ later)

def deliver (react : React) (event : Event) (exchange : Exchange) :
    Option (Exchange × List Call) :=
  match callEach react event exchange exchange.bus.catchAlls with
  | none => none
  | some (after, calls) =>
      match callClasses react event [] after event.classes with
      | none => none
      | some (final, later) => some (final, calls ++ later)

def performWith (emit : Event → Traced) (exchange : Exchange) :
    List Action → Option (Exchange × List Call)
  | [] => some (exchange, [])
  | action :: rest =>
      let step : Option (Exchange × List Call) :=
        match action with
        | .subscribe subscription handle =>
            some (⟨exchange.bus.subscribe subscription,
              (handle, subscription) :: exchange.handles⟩, [])
        | .unsubscribe handle =>
            match exchange.handles.lookup handle with
            | some subscription =>
                some ({ exchange with bus := exchange.bus.unsubscribe subscription }, [])
            | none => some (exchange, [])
        | .onAll listener => some ({ exchange with bus := exchange.bus.onAll listener }, [])
        | .emit event => emit event exchange
      match step with
      | none => none
      | some (after, calls) =>
          match performWith emit after rest with
          | none => none
          | some (final, later) => some (final, calls ++ later)

/-- The reactions of listeners. -/
abbrev Reactions := String → List Action

/-- Emits an event, where reactions may emit further events to a given depth. -/
def emit (reactions : Reactions) : Nat → Event → Traced
  | 0, _ => fun _ => none
  | depth + 1, event =>
      deliver (fun listener exchange =>
        performWith (emit reactions depth) exchange (reactions listener)) event

/-- Performs actions, where reactions may emit further events to a given depth. -/
def perform (reactions : Reactions) (depth : Nat) (exchange : Exchange) (actions : List Action) :
    Option (Exchange × List Call) :=
  performWith (emit reactions depth) exchange actions

def reactionDepth : Nat := 1000

end SelectorAudit.Event
