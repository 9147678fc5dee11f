import SelectorAudit.Proofs.Event.Dispatch

/-!
# Handles and the registrations they take back

A handle is given out for one registration, but what is looked for when it is invoked is the
listener and the class, and the earliest registration that has both is taken back. So nobody hears
of an event who has no registration left whose handle is unused. The converse holds as long as no
handle is invoked again while another registration of the same listener for the same class is left,
and listeners are called in the order of the registrations left to them as long as such
registrations are taken back in the order in which they were made.
-/

namespace SelectorAudit.Event

set_option autoImplicit false

structure Registration where
  subscription : Subscription
  handle : String
  kept : Bool

/-- The registrations that have been made, the latest first. -/
abbrev Ledger := List Registration

namespace Ledger

/-- The registrations whose own handles have not been invoked, in the order in which they were
made. -/
def remaining (ledger : Ledger) : List Subscription :=
  ((ledger.filter Registration.kept).map Registration.subscription).reverse

/-- The registration that a handle was given out for and those made before it. If a name was given
to several handles, it means the latest. -/
def upTo (ledger : Ledger) (handle : String) : Ledger :=
  ledger.dropWhile fun registration => registration.handle != handle

def invoke (ledger : Ledger) (handle : String) : Ledger :=
  match ledger.upTo handle with
  | [] => ledger
  | own :: older =>
      (ledger.takeWhile fun registration => registration.handle != handle) ++
        { own with kept := false } :: older

def record (ledger : Ledger) : Action → Ledger
  | .subscribe subscription handle => ⟨subscription, handle, true⟩ :: ledger
  | .unsubscribe handle => ledger.invoke handle
  | .onAll _ => ledger
  | .emit _ => ledger

/-- A handle is invoked for the first time, or else no registration like its own remains. -/
def Once (ledger : Ledger) : Action → Prop
  | .unsubscribe handle => ∀ own ∈ (ledger.upTo handle).head?,
      own.kept = true ∨ own.subscription ∉ ledger.remaining
  | _ => True

/-- A handle is invoked when its own registration is the earliest of its like that remains, or else
no registration like its own remains. -/
def InOrder (ledger : Ledger) : Action → Prop
  | .unsubscribe handle => ∀ own ∈ (ledger.upTo handle).head?,
      (own.kept = true ∧ own.subscription ∉ remaining (ledger.upTo handle).tail) ∨
        own.subscription ∉ ledger.remaining
  | _ => True

/-- Each action of a history is allowed by the registrations made before it. -/
def Along (allowed : Ledger → Action → Prop) (ledger : Ledger) : List Action → Prop
  | [] => True
  | action :: rest => allowed ledger action ∧ Along allowed (ledger.record action) rest

theorem remaining_append (newer older : Ledger) :
    remaining (newer ++ older) = remaining older ++ remaining newer := by
  simp [remaining]

theorem remaining_cons (registration : Registration) (older : Ledger) :
    remaining (registration :: older) = remaining older ++
      if registration.kept then [registration.subscription] else [] := by
  cases kept : registration.kept <;> simp [remaining, kept]

theorem up_to_cases (ledger : Ledger) (handle : String) :
    ledger.upTo handle = [] ∧ ledger.invoke handle = ledger ∨
      ∃ newer own older, ledger = newer ++ own :: older ∧ ledger.upTo handle = own :: older ∧
        ledger.invoke handle = newer ++ { own with kept := false } :: older := by
  have divided : ledger.takeWhile (fun registration => registration.handle != handle) ++
      ledger.upTo handle = ledger := List.takeWhile_append_dropWhile
  unfold invoke
  cases found : ledger.upTo handle with
  | nil => exact .inl ⟨rfl, rfl⟩
  | cons own older =>
      rw [found] at divided
      exact .inr ⟨_, own, older, divided.symm, rfl, rfl⟩

end Ledger

/-! What an action does to a bus. -/

/-- The registrations on a bus after an action, where handles are looked up in a ledger. -/
def standing (subscriptions : List Subscription) (ledger : Ledger) : Action → List Subscription
  | .subscribe subscription _ => subscriptions ++ [subscription]
  | .unsubscribe handle =>
      match ledger.upTo handle with
      | [] => subscriptions
      | own :: _ => subscriptions.erase own.subscription
  | .onAll _ => subscriptions
  | .emit _ => subscriptions

def standingAfter (subscriptions : List Subscription) (ledger : Ledger) :
    List Action → List Subscription
  | [] => subscriptions
  | action :: rest =>
      standingAfter (standing subscriptions ledger action) (ledger.record action) rest

def Ledger.handles (ledger : Ledger) : List (String × Subscription) :=
  ledger.map fun registration => (registration.handle, registration.subscription)

theorem lookup_handle (ledger : Ledger) (handle : String) :
    ledger.handles.lookup handle = (ledger.upTo handle).head?.map Registration.subscription := by
  induction ledger with
  | nil => rfl
  | cons registration older ih =>
      unfold Ledger.handles Ledger.upTo at ih ⊢
      rw [List.map_cons, List.lookup_cons, List.dropWhile_cons]
      by_cases same : registration.handle = handle
      · simp [same]
      · have other : (handle == registration.handle) = false :=
          beq_eq_false_iff_ne.mpr (Ne.symm same)
        simp [same, other, ih]

theorem invoke_handles (ledger : Ledger) (handle : String) :
    (ledger.invoke handle).handles = ledger.handles := by
  rcases ledger.up_to_cases handle with ⟨_, same⟩ | ⟨newer, own, older, shape, _, changed⟩
  · rw [same]
  · rw [changed, shape]
    simp [Ledger.handles]

/-- Nobody reacts to anything. -/
def quiet : Reactions := fun _ => []

/-- The listeners among registrations who hear of an event, in order. -/
def hearers (subscriptions : List Subscription) (event : Event) : List String :=
  (event.classes.flatMap fun eventClass =>
    (subscriptions.filter fun subscription => subscription.eventClass = eventClass).map
      Subscription.listener).eraseDups

theorem mem_hearers {subscriptions : List Subscription} {event : Event} {listener : String} :
    listener ∈ hearers subscriptions event ↔
      ∃ eventClass ∈ event.classes, ⟨eventClass, listener⟩ ∈ subscriptions := by
  rw [hearers, List.mem_eraseDups, List.mem_flatMap]
  apply exists_congr
  intro eventClass
  apply and_congr_right
  intro _
  rw [List.mem_map]
  constructor
  · rintro ⟨⟨_, _⟩, member, rfl⟩
    rw [List.mem_filter, decide_eq_true_iff] at member
    exact member.2 ▸ member.1
  · intro member
    exact ⟨⟨eventClass, listener⟩, List.mem_filter.mpr ⟨member, decide_eq_true rfl⟩, rfl⟩

theorem emit_quiet (depth : Nat) (event : Event) (exchange : Exchange) :
    emit quiet (depth + 1) event exchange =
      some (exchange, (exchange.bus.catchAlls ++ hearers exchange.bus.subscriptions event).map
        fun listener => .call listener event []) :=
  emit_unanswered (fun _ => rfl) depth event exchange

theorem perform_quiet_cons (depth : Nat) (exchange : Exchange) (ledger : Ledger)
    (known : exchange.handles = ledger.handles) (action : Action) (rest : List Action) :
    ∃ after calls, after.handles = (ledger.record action).handles ∧
      after.bus.subscriptions = standing exchange.bus.subscriptions ledger action ∧
      ∀ final later, perform quiet (depth + 1) after rest = some (final, later) →
        perform quiet (depth + 1) exchange (action :: rest) = some (final, calls ++ later) := by
  unfold perform
  cases action with
  | subscribe subscription handle =>
      refine ⟨⟨exchange.bus.subscribe subscription, (handle, subscription) :: exchange.handles⟩, [],
        congrArg _ known, rfl, ?_⟩
      intro final later behind
      rw [performWith, behind]
  | unsubscribe handle =>
      have looked := lookup_handle ledger handle
      rw [← known] at looked
      have kept : exchange.handles = (ledger.invoke handle).handles := by
        rw [invoke_handles, known]
      rw [standing]
      cases found : ledger.upTo handle with
      | nil =>
          rw [found] at looked
          refine ⟨exchange, [], kept, rfl, ?_⟩
          intro final later behind
          simp [performWith, looked, behind]
      | cons own older =>
          rw [found] at looked
          refine ⟨{ exchange with bus := exchange.bus.unsubscribe own.subscription }, [], kept, rfl,
            ?_⟩
          intro final later behind
          simp [performWith, looked, behind]
  | onAll listener =>
      refine ⟨{ exchange with bus := exchange.bus.onAll listener }, [], known, rfl, ?_⟩
      intro final later behind
      rw [performWith, behind]
  | emit event =>
      obtain ⟨calls, emitted⟩ : ∃ calls, emit quiet (depth + 1) event exchange =
          some (exchange, calls) := ⟨_, emit_quiet depth event exchange⟩
      refine ⟨exchange, calls, known, rfl, ?_⟩
      intro final later behind
      rw [performWith]
      simp only [emitted, behind]

/-- After a history, the registrations on the bus are those that the actions have left standing. -/
theorem perform_quiet (depth : Nat) (history : List Action) (exchange : Exchange) (ledger : Ledger)
    (known : exchange.handles = ledger.handles) :
    ∃ final calls, perform quiet (depth + 1) exchange history = some (final, calls) ∧
      final.bus.subscriptions = standingAfter exchange.bus.subscriptions ledger history := by
  induction history generalizing exchange ledger with
  | nil => exact ⟨exchange, [], rfl, rfl⟩
  | cons action rest ih =>
      obtain ⟨after, calls, handles, stands, goesOn⟩ :=
        perform_quiet_cons depth exchange ledger known action rest
      obtain ⟨final, later, behind, left⟩ := ih after (ledger.record action) handles
      refine ⟨final, calls ++ later, goesOn final later behind, ?_⟩
      rw [left, stands]
      rfl

/-! What remains and what stands. -/

/-- What holds of the registrations on a bus and those made, and is kept by each action that is
allowed, holds after a history of such actions. -/
theorem standing_after_induction {holds : List Subscription → Ledger → Prop}
    {allowed : Ledger → Action → Prop}
    (step : ∀ subscriptions ledger action, allowed ledger action → holds subscriptions ledger →
      holds (standing subscriptions ledger action) (ledger.record action))
    (history : List Action) {subscriptions : List Subscription} {ledger : Ledger}
    (proper : ledger.Along allowed history) (start : holds subscriptions ledger) :
    holds (standingAfter subscriptions ledger history) (history.foldl Ledger.record ledger) := by
  induction history generalizing subscriptions ledger with
  | nil => exact start
  | cons action rest ih => exact ih proper.2 (step subscriptions ledger action proper.1 start)

theorem count_remaining_invoke {ledger newer older : Ledger} {own : Registration} {handle : String}
    (shape : ledger = newer ++ own :: older)
    (changed : ledger.invoke handle = newer ++ { own with kept := false } :: older)
    (subscription : Subscription) :
    (ledger.invoke handle).remaining.count subscription +
        (if own.kept = true ∧ own.subscription = subscription then 1 else 0) =
      ledger.remaining.count subscription := by
  rw [changed, shape]
  simp only [Ledger.remaining_append, Ledger.remaining_cons, List.count_append]
  cases own.kept <;> simp [List.count_singleton]
  omega

section

variable (subscriptions : List Subscription) (ledger : Ledger) (action : Action)

/-- An action adds equally many registrations of a kind to those on the bus and to those that
remain, or it invokes a handle for one of them. -/
theorem standing_counts (subscription : Subscription) :
    (∃ added, (standing subscriptions ledger action).count subscription =
        subscriptions.count subscription + added ∧
      (ledger.record action).remaining.count subscription =
        ledger.remaining.count subscription + added) ∨
    ∃ handle own, action = .unsubscribe handle ∧ own ∈ (ledger.upTo handle).head? ∧
      own.subscription = subscription ∧
      (standing subscriptions ledger action).count subscription =
        subscriptions.count subscription - 1 ∧
      (ledger.record action).remaining.count subscription + (if own.kept = true then 1 else 0) =
        ledger.remaining.count subscription := by
  cases action with
  | subscribe added handle =>
      refine .inl ⟨[added].count subscription, ?_, ?_⟩
      · exact List.count_append
      · simp only [Ledger.record, Ledger.remaining_cons, if_true, List.count_append]
  | unsubscribe handle =>
      rw [standing, Ledger.record]
      rcases ledger.up_to_cases handle with
        ⟨found, same⟩ | ⟨newer, own, older, shape, found, changed⟩
      · rw [found, same]
        exact .inl ⟨0, rfl, rfl⟩
      · have counted := count_remaining_invoke shape changed subscription
        rw [found]
        dsimp only
        rw [List.count_erase]
        by_cases like : own.subscription = subscription
        · rw [if_pos (beq_iff_eq.mpr like)]
          simp only [like, and_true] at counted
          exact .inr ⟨handle, own, rfl, by rw [found]; rfl, like, rfl, counted⟩
        · have other : (own.subscription == subscription) = false := beq_eq_false_iff_ne.mpr like
          simp only [like, and_false, if_false, Nat.add_zero] at counted
          exact .inl ⟨0, by simp [other], counted⟩
  | onAll listener => exact .inl ⟨0, rfl, rfl⟩
  | emit event => exact .inl ⟨0, rfl, rfl⟩

theorem standing_count_le
    (fewer : ∀ subscription, subscriptions.count subscription ≤ ledger.remaining.count subscription)
    (subscription : Subscription) :
    (standing subscriptions ledger action).count subscription ≤
      (ledger.record action).remaining.count subscription := by
  have before := fewer subscription
  rcases standing_counts subscriptions ledger action subscription with
    ⟨added, stands, remains⟩ | ⟨handle, own, _, _, _, stands, remains⟩
  · omega
  · split at remains <;> omega

theorem remaining_count_le (once : ledger.Once action)
    (fewer : ∀ subscription, ledger.remaining.count subscription ≤ subscriptions.count subscription)
    (subscription : Subscription) :
    (ledger.record action).remaining.count subscription ≤
      (standing subscriptions ledger action).count subscription := by
  have before := fewer subscription
  rcases standing_counts subscriptions ledger action subscription with
    ⟨added, stands, remains⟩ | ⟨handle, own, rfl, found, rfl, stands, remains⟩
  · omega
  · rcases once own found with first | none
    · rw [if_pos first] at remains
      omega
    · have left := List.count_eq_zero.mpr none
      omega

theorem standing_remains (inOrder : ledger.InOrder action)
    (same : subscriptions = ledger.remaining) :
    standing subscriptions ledger action = (ledger.record action).remaining := by
  subst same
  cases action with
  | subscribe added handle => simp [standing, Ledger.record, Ledger.remaining_cons]
  | unsubscribe handle =>
      rw [standing, Ledger.record]
      rcases ledger.up_to_cases handle with
        ⟨found, same⟩ | ⟨newer, own, older, shape, found, changed⟩
      · rw [found, same]
      · have allowed : (own.kept = true ∧ own.subscription ∉ Ledger.remaining older) ∨
            own.subscription ∉ ledger.remaining := by
          have told := inOrder own (by rw [found]; rfl)
          rw [found] at told
          exact told
        rw [found]
        dsimp only
        rw [changed]
        rcases allowed with ⟨first, earliest⟩ | none
        · rw [shape]
          simp only [Ledger.remaining_append, Ledger.remaining_cons, first, if_true]
          simp [List.erase_append_right, earliest]
        -- Its own was taken back before, and there is none like it to take in its place.
        · rw [List.erase_of_not_mem none]
          rw [shape] at none ⊢
          simp only [Ledger.remaining_append, Ledger.remaining_cons] at none ⊢
          cases kept : own.kept with
          | false => simp
          | true => simp [kept] at none
  | onAll listener => rfl
  | emit event => rfl

end

/-! The theorem. -/

/-- The registrations made in a history. -/
def ledgerOf (history : List Action) : Ledger :=
  history.foldl Ledger.record []

/-- Whether a listener has a registration for a class of an event whose own handle has not been
invoked. -/
def StaysRegistered (ledger : Ledger) (event : Event) (listener : String) : Prop :=
  ∃ eventClass ∈ event.classes, ⟨eventClass, listener⟩ ∈ ledger.remaining

theorem along_anything (history : List Action) (ledger : Ledger) :
    ledger.Along (fun _ _ => True) history := by
  induction history generalizing ledger with
  | nil => trivial
  | cons action rest ih => exact ⟨trivial, ih _⟩

theorem hears_of_counts {subscriptions others : List Subscription}
    (fewer : ∀ subscription, subscriptions.count subscription ≤ others.count subscription)
    {event : Event} {listener : String} (heard : listener ∈ hearers subscriptions event) :
    listener ∈ hearers others event := by
  obtain ⟨eventClass, among, member⟩ := mem_hearers.mp heard
  have counted := fewer ⟨eventClass, listener⟩
  have present := List.count_pos_iff.mpr member
  exact mem_hearers.mpr ⟨eventClass, among, List.count_pos_iff.mp (by omega)⟩

/-- Whoever hears of an event in a class has a registration left whose own handle has not been
invoked. All who have one hear of it, if no handle is invoked again while a registration of the same
listener for the same class remains. They are called in the order of the earliest registrations that
remain to them, if a handle is only invoked when its own registration is the earliest of its kind to
remain. -/
theorem handles_take_back_registrations (depth : Nat) (history : List Action) :
    ∃ exchange calls, perform quiet (depth + 1) Exchange.empty history = some (exchange, calls) ∧
      ∀ event, ∃ heard,
        emit quiet (depth + 1) event exchange =
          some (exchange, (exchange.bus.catchAlls ++ heard).map
            fun listener => .call listener event []) ∧
        (∀ listener ∈ heard, StaysRegistered (ledgerOf history) event listener) ∧
        (Ledger.Along Ledger.Once [] history → ∀ listener,
          listener ∈ heard ↔ StaysRegistered (ledgerOf history) event listener) ∧
        (Ledger.Along Ledger.InOrder [] history →
          heard = hearers (ledgerOf history).remaining event) := by
  obtain ⟨exchange, calls, performed, stands⟩ := perform_quiet depth history Exchange.empty [] rfl
  have nobodyElse : ∀ subscription, exchange.bus.subscriptions.count subscription ≤
      (ledgerOf history).remaining.count subscription := by
    rw [stands]
    apply standing_after_induction (fun subscriptions ledger action _ =>
      standing_count_le subscriptions ledger action) history (along_anything history [])
    exact fun _ => Nat.le_refl _
  have everybody (once : Ledger.Along Ledger.Once [] history) : ∀ subscription,
      (ledgerOf history).remaining.count subscription ≤
        exchange.bus.subscriptions.count subscription := by
    rw [stands]
    exact standing_after_induction remaining_count_le history once fun _ => Nat.le_refl _
  refine ⟨exchange, calls, performed, fun event => ?_⟩
  refine ⟨_, emit_quiet depth event exchange, ?_, ?_, ?_⟩
  · intro listener heard
    exact mem_hearers.mp (hears_of_counts nobodyElse heard)
  · intro once listener
    constructor
    · intro heard
      exact mem_hearers.mp (hears_of_counts nobodyElse heard)
    · intro stays
      exact hears_of_counts (everybody once) (mem_hearers.mpr stays)
  · intro inOrder
    have same : standingAfter Exchange.empty.bus.subscriptions [] history =
        (ledgerOf history).remaining :=
      standing_after_induction standing_remains history inOrder rfl
    rw [stands, same]

/-- A listener takes its earlier registration back, and another invokes its only handle twice. -/
def orderlyHistory : List Action :=
  [.subscribe ⟨.started, "a"⟩ "1", .subscribe ⟨.started, "b"⟩ "2", .subscribe ⟨.started, "a"⟩ "3",
    .unsubscribe "1", .subscribe ⟨.run, "c"⟩ "4", .unsubscribe "4", .unsubscribe "4"]

theorem handles_take_back_registrations_orderly :
    Ledger.Along Ledger.Once [] orderlyHistory ∧ Ledger.Along Ledger.InOrder [] orderlyHistory ∧
      ∃ exchange calls, perform quiet 1 Exchange.empty orderlyHistory = some (exchange, calls) ∧
        ∃ heard, emit quiet 1 (.started "/p" 1) exchange =
            some (exchange, (exchange.bus.catchAlls ++ heard).map
              fun listener => .call listener (.started "/p" 1) []) ∧
          heard = ["b", "a"] ∧ "c" ∉ heard := by
  have once : Ledger.Along Ledger.Once [] orderlyHistory := by
    simp [orderlyHistory, Ledger.Along, Ledger.Once, Ledger.record, Ledger.invoke, Ledger.upTo,
      Ledger.remaining]
  have inOrder : Ledger.Along Ledger.InOrder [] orderlyHistory := by
    simp [orderlyHistory, Ledger.Along, Ledger.InOrder, Ledger.record, Ledger.invoke, Ledger.upTo,
      Ledger.remaining]
  obtain ⟨exchange, calls, performed, told⟩ := handles_take_back_registrations 0 orderlyHistory
  obtain ⟨heard, emitted, _, iff, ordered⟩ := told (.started "/p" 1)
  refine ⟨once, inOrder, exchange, calls, performed, heard, emitted, ordered inOrder, ?_⟩
  rw [iff once]
  unfold StaysRegistered
  decide

/-- The history of a handle that is invoked twice while a registration like its own is left. -/
def repeatedHistory : List Action :=
  [.subscribe ⟨.started, "a"⟩ "1", .subscribe ⟨.started, "a"⟩ "2", .unsubscribe "1",
    .unsubscribe "1"]

/-- The history of a handle that is invoked while an earlier registration like its own is left. -/
def overtakenHistory : List Action :=
  [.subscribe ⟨.started, "a"⟩ "1", .subscribe ⟨.started, "b"⟩ "2", .subscribe ⟨.started, "a"⟩ "3",
    .unsubscribe "3"]

/-- A handle can take back a registration that is not its own: in the first case nobody hears of the
event any more, in the second `b` is called before `a`. -/
theorem handle_can_take_back_another :
    StaysRegistered (ledgerOf repeatedHistory) (.started "/p" 1) "a" ∧
      (perform quiet 1 Exchange.empty (repeatedHistory ++ [.emit (.started "/p" 1)])).map
        Prod.snd = some [] ∧
      hearers (ledgerOf overtakenHistory).remaining (.started "/p" 1) = ["a", "b"] ∧
      (perform quiet 1 Exchange.empty (overtakenHistory ++ [.emit (.started "/p" 1)])).map
        Prod.snd = some [.call "b" (.started "/p" 1) [], .call "a" (.started "/p" 1) []] := by
  refine ⟨?_, rfl, by decide, rfl⟩
  unfold StaysRegistered
  decide

end SelectorAudit.Event
