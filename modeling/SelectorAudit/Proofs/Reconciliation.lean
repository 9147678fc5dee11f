import Mathlib.Data.List.Induction
import SelectorAudit.Reconcile

/-!
# The algebra of reconciliation

Taking away used names and keeping the first selector of each kind and name get along. Both are told
by what they ask: the one looks at names only, the other at kinds and names, so a test that looks at
no more than these may be made before or behind the second. Usage may be taken away in portions and
in any order, and counting distinct selectors may come before or behind that.
-/

namespace SelectorAudit

set_option autoImplicit false

/-! Names in use. -/

theorem mem_distinct {α : Type} [BEq α] [LawfulBEq α] {members : List α} {member : α} :
    member ∈ Text.distinct members ↔ member ∈ members := by
  induction members with
  | nil => rfl
  | cons first rest ih =>
      by_cases same : member = first
      · simp [Text.distinct, same]
      · simp [Text.distinct, same, ih]

theorem mem_used_names {used : List UsedName} {name : String} :
    name ∈ usedNames used ↔ ∃ use ∈ used, use.name = name := by
  rw [usedNames, mem_distinct, List.mem_map]

theorem find_unused_eq (selectors : List Selector) (used : List UsedName) :
    findUnused selectors used =
      selectors.filter fun selector => selector.name ∉ usedNames used := by
  apply List.filter_congr
  intro selector _
  rw [Bool.eq_iff_iff]
  simp [mem_used_names]

theorem find_unused_append (selectors : List Selector) (used others : List UsedName) :
    findUnused selectors (used ++ others) = findUnused (findUnused selectors used) others := by
  unfold findUnused
  rw [List.filter_filter]
  apply List.filter_congr
  intro selector _
  rw [List.any_append, Bool.not_or, Bool.and_comm]

theorem find_unused_of_names {used others : List UsedName} (selectors : List Selector)
    (same : ∀ name, name ∈ usedNames used ↔ name ∈ usedNames others) :
    findUnused selectors used = findUnused selectors others := by
  rw [find_unused_eq, find_unused_eq]
  apply List.filter_congr
  intro selector _
  rw [decide_eq_decide, same selector.name]

/-! The first of each kind and name. -/

/-- The kind and name of a selector, without its place. -/
def Selector.reference (selector : Selector) : SelectorRef :=
  ⟨selector.kind, selector.name⟩

theorem same_name_eq (first second : Selector) :
    first.sameName second = decide (first.reference = second.reference) := by
  simp [Selector.sameName, Selector.reference, Bool.beq_eq_decide_eq, Bool.decide_and]

theorem any_same_name (selector : Selector) (selectors : List Selector) :
    selectors.any selector.sameName =
      decide (selector.reference ∈ selectors.map Selector.reference) := by
  rw [Bool.eq_iff_iff, List.any_eq_true, decide_eq_true_iff, List.mem_map]
  constructor
  · rintro ⟨other, member, same⟩
    rw [same_name_eq, decide_eq_true_iff] at same
    exact ⟨other, member, same.symm⟩
  · rintro ⟨other, member, same⟩
    refine ⟨other, member, ?_⟩
    rw [same_name_eq, decide_eq_true same.symm]

def Placeless (test : Selector → Bool) : Prop :=
  ∀ first second, first.reference = second.reference → test first = test second

theorem placeless_other (first : Selector) : Placeless fun other => !other.sameName first := by
  intro one another same
  dsimp only
  rw [same_name_eq, same_name_eq, same]

theorem placeless_unused (used : List UsedName) :
    Placeless fun selector => !used.any fun use => use.name == selector.name := by
  intro one another same
  have named : one.name = another.name := congrArg SelectorRef.name same
  dsimp only
  rw [named]

/-- Keeping the first of each kind and name may be done before or behind a test of kinds and
names. -/
theorem distinct_unused_filter {test : Selector → Bool} (placeless : Placeless test)
    (selectors : List Selector) :
    distinctUnused (selectors.filter test) = (distinctUnused selectors).filter test := by
  induction selectors with
  | nil => rfl
  | cons first rest ih =>
      by_cases kept : test first = true
      · rw [List.filter_cons_of_pos kept, distinctUnused, distinctUnused, ih,
          List.filter_cons_of_pos kept, List.filter_filter, List.filter_filter]
        apply congrArg (List.cons first)
        apply List.filter_congr
        intro other _
        exact Bool.and_comm _ _
      · rw [List.filter_cons_of_neg kept, distinctUnused, ih, List.filter_cons_of_neg kept,
          List.filter_filter]
        apply List.filter_congr
        intro other _
        by_cases same : other.reference = first.reference
        · have fails : test other = false := by
            rw [placeless other first same]
            exact Bool.eq_false_iff.mpr kept
          rw [fails, Bool.false_and]
        · rw [same_name_eq, decide_eq_false same, Bool.not_false, Bool.and_true]

theorem distinct_unused_append (selectors others : List Selector) :
    distinctUnused (selectors ++ others) = distinctUnused selectors ++
      (distinctUnused others).filter fun other => !selectors.any other.sameName := by
  induction selectors with
  | nil =>
      have all : (distinctUnused others).filter (fun _ => true) = distinctUnused others :=
        List.filter_eq_self.mpr fun _ _ => rfl
      exact all.symm
  | cons first rest ih =>
      rw [List.cons_append, distinctUnused, distinctUnused, ih, List.filter_append,
        List.filter_filter, List.cons_append]
      simp only [List.any_cons, Bool.not_or]

theorem distinct_unused_sublist (selectors : List Selector) :
    (distinctUnused selectors).Sublist selectors := by
  induction selectors with
  | nil => exact List.Sublist.slnil
  | cons first rest ih => exact (List.filter_sublist.trans ih).cons_cons first

theorem distinct_unused_idempotent (selectors : List Selector) :
    distinctUnused (distinctUnused selectors) = distinctUnused selectors := by
  induction selectors with
  | nil => rfl
  | cons first rest ih =>
      rw [distinctUnused, distinctUnused, distinct_unused_filter (placeless_other first), ih,
        List.filter_filter]
      simp only [Bool.and_self]

/-- What has been seen already adds nothing. -/
theorem distinct_unused_twice (selectors : List Selector) :
    distinctUnused (selectors ++ selectors) = distinctUnused selectors := by
  have seen : (distinctUnused selectors).filter (fun other => !selectors.any other.sameName) =
      [] := by
    rw [List.filter_eq_nil_iff]
    intro selector member
    have known : selector.reference ∈ selectors.map Selector.reference :=
      List.mem_map_of_mem ((distinct_unused_sublist selectors).subset member)
    rw [any_same_name, decide_eq_true known]
    exact Bool.false_ne_true
  rw [distinct_unused_append, seen, List.append_nil]

/-- The selectors before which none of the same kind and name stands, in the order given. -/
def firstOfEach (selectors : List Selector) : List Selector :=
  (selectors.zipIdx.filter fun entry =>
    entry.1.reference ∉ (selectors.take entry.2).map Selector.reference).map Prod.fst

theorem first_of_each_snoc (selectors : List Selector) (last : Selector) :
    firstOfEach (selectors ++ [last]) = firstOfEach selectors ++
      if last.reference ∈ selectors.map Selector.reference then [] else [last] := by
  have before : ∀ entry ∈ selectors.zipIdx,
      (selectors ++ [last]).take entry.2 = selectors.take entry.2 := by
    intro entry member
    exact List.take_append_of_le_length (Nat.le_of_lt (List.snd_lt_of_mem_zipIdx member))
  have earlier : (selectors.zipIdx.filter fun entry => decide
        (entry.1.reference ∉ ((selectors ++ [last]).take entry.2).map Selector.reference)) =
      selectors.zipIdx.filter fun entry => decide
        (entry.1.reference ∉ (selectors.take entry.2).map Selector.reference) := by
    apply List.filter_congr
    intro entry member
    rw [before entry member]
  rw [firstOfEach, List.zipIdx_append, List.filter_append, List.map_append, earlier, firstOfEach]
  apply congrArg
  by_cases known : last.reference ∈ selectors.map Selector.reference
  · simp [known]
  · simp [known]

theorem distinct_unused_eq_first (selectors : List Selector) :
    distinctUnused selectors = firstOfEach selectors := by
  induction selectors using List.reverseRecOn with
  | nil => rfl
  | append_singleton selectors last ih =>
      rw [distinct_unused_append, first_of_each_snoc, ih]
      apply congrArg
      by_cases known : last.reference ∈ selectors.map Selector.reference
      · simp only [distinctUnused, List.filter_nil, List.filter_cons, any_same_name, known,
          decide_true, Bool.not_true, Bool.false_eq_true, if_true, if_false]
      · simp only [distinctUnused, List.filter_nil, List.filter_cons, any_same_name, known,
          decide_false, Bool.not_false, if_true, if_false]

/-- Among selectors of one kind and name the first is kept. -/
theorem distinct_unused_alike {reference : SelectorRef} {selectors : List Selector}
    (alike : ∀ selector ∈ selectors, selector.reference = reference) :
    distinctUnused selectors = selectors.take 1 := by
  cases selectors with
  | nil => rfl
  | cons first rest =>
      have none : (distinctUnused rest).filter (fun other => !other.sameName first) = [] := by
        rw [List.filter_eq_nil_iff]
        intro other member
        have later := alike other (List.mem_cons_of_mem first
          ((distinct_unused_sublist rest).subset member))
        have same : other.reference = first.reference :=
          later.trans (alike first List.mem_cons_self).symm
        rw [same_name_eq, decide_eq_true same]
        exact Bool.false_ne_true
      rw [distinctUnused, none]
      rfl

theorem distinct_unused_of_reference (selectors : List Selector) (reference : SelectorRef) :
    ((distinctUnused selectors).filter fun selector => selector.reference = reference) =
      (selectors.filter fun selector => selector.reference = reference).take 1 := by
  have placeless : Placeless fun selector => decide (selector.reference = reference) := by
    intro one another same
    dsimp only
    rw [same]
  rw [← distinct_unused_filter placeless]
  apply distinct_unused_alike
  intro selector member
  exact of_decide_eq_true (List.mem_filter.mp member).2

/-- The algebra of reconciliation. Usage can be taken away in portions; of usage only the set of
names matters, whatever its order, its repetitions and its files; keeping the first of each kind and
name may come before or behind taking usage away. What it keeps is a sub-list in the order given: the
selectors before which none of the same kind and name stands, so of each kind and name that occurs
the first selector and no other. Doing it again, or to a list that is repeated, changes nothing. -/
theorem reconciliation_laws (selectors : List Selector) (used : List UsedName) :
    (∀ others, findUnused selectors (used ++ others) =
      findUnused (findUnused selectors used) others) ∧
    (∀ name, name ∈ usedNames used ↔ ∃ use ∈ used, use.name = name) ∧
    findUnused selectors used =
      (selectors.filter fun selector => selector.name ∉ usedNames used) ∧
    (∀ others, (∀ name, name ∈ usedNames used ↔ name ∈ usedNames others) →
      findUnused selectors used = findUnused selectors others) ∧
    distinctUnused (findUnused selectors used) = findUnused (distinctUnused selectors) used ∧
    (distinctUnused selectors).Sublist selectors ∧
    distinctUnused selectors = firstOfEach selectors ∧
    (∀ reference, ((distinctUnused selectors).filter fun selector =>
        selector.reference = reference) =
      (selectors.filter fun selector => selector.reference = reference).take 1) ∧
    distinctUnused (distinctUnused selectors) = distinctUnused selectors ∧
    distinctUnused (selectors ++ selectors) = distinctUnused selectors := by
  refine ⟨find_unused_append selectors used, fun name => mem_used_names,
    find_unused_eq selectors used, ?_,
    distinct_unused_filter (placeless_unused used) selectors, distinct_unused_sublist selectors,
    distinct_unused_eq_first selectors, distinct_unused_of_reference selectors,
    distinct_unused_idempotent selectors, distinct_unused_twice selectors⟩
  intro others same
  exact find_unused_of_names selectors same

/-- A class and an id of one name, and the class declared again in another file. -/
def sharedNames : List Selector :=
  [⟨.classSelector, "a", "s.css", 1, 1⟩, ⟨.classSelector, "c", "s.css", 2, 1⟩,
    ⟨.idSelector, "c", "s.css", 3, 1⟩, ⟨.classSelector, "c", "t.css", 1, 1⟩]

/-- The same names in another order, from other files, and one of them twice. -/
theorem reconciliation_laws_rearranged :
    let used : List UsedName := [⟨"a", "x.jsx"⟩, ⟨"b", "y.jsx"⟩]
    let others : List UsedName := [⟨"b", "z.ts"⟩, ⟨"a", "z.ts"⟩, ⟨"b", "x.jsx"⟩]
    (∀ name, name ∈ usedNames used ↔ name ∈ usedNames others) ∧
      findUnused sharedNames used = findUnused sharedNames others ∧
      distinctUnused (findUnused sharedNames others) =
        [⟨.classSelector, "c", "s.css", 2, 1⟩, ⟨.idSelector, "c", "s.css", 3, 1⟩] := by
  intro used others
  have same : ∀ name, name ∈ usedNames used ↔ name ∈ usedNames others := by
    intro name
    have first : usedNames used = ["a", "b"] := by decide
    have second : usedNames others = ["b", "a"] := by decide
    rw [first, second]
    simp [or_comm]
  obtain ⟨_, _, _, rearranged, _⟩ := reconciliation_laws sharedNames used
  exact ⟨same, rearranged others same, by decide⟩

end SelectorAudit
