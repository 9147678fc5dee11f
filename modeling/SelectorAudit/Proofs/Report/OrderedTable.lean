import Mathlib.Data.List.Nodup

/-!
# Tables in the order of insertion

The counts of an error log and the entries of a sink are tables: keys with values, in which a key
that is written again keeps its place and a new key goes to the end. `amend` is the change that both
of them make, `omitKey` the one by which a key is given up. What happens to the keys and what
happens to the values is told apart; a table that repeats no key is spelled out by the two together.
-/

namespace SelectorAudit.Report

set_option autoImplicit false

section

variable {κ ν : Type} [DecidableEq κ]

/-- Changes the value of a key in place; a key that is not listed goes to the end. -/
def amend (key : κ) (change : Option ν → ν) : List (κ × ν) → List (κ × ν)
  | [] => [(key, change none)]
  | entry :: rest =>
      if entry.1 = key then (key, change (some entry.2)) :: rest
      else entry :: amend key change rest

def omitKey (key : κ) (table : List (κ × ν)) : List (κ × ν) :=
  table.filter fun entry => entry.1 != key

/-! Keys. -/

theorem amend_keys (key : κ) (change : Option ν → ν) (table : List (κ × ν)) :
    (amend key change table).map Prod.fst =
      if key ∈ table.map Prod.fst then table.map Prod.fst else table.map Prod.fst ++ [key] := by
  induction table with
  | nil => rfl
  | cons entry rest ih =>
      by_cases same : entry.1 = key
      · simp [amend, same]
      · have other : key ≠ entry.1 := Ne.symm same
        rw [amend, if_neg same, List.map_cons, ih, List.map_cons]
        simp only [List.mem_cons, other, false_or]
        split <;> rfl

theorem omit_keys (key : κ) (table : List (κ × ν)) :
    (omitKey key table).map Prod.fst = (table.map Prod.fst).filter fun other => other != key := by
  rw [omitKey, List.filter_map]
  rfl

theorem amend_distinct {table : List (κ × ν)} (key : κ) (change : Option ν → ν)
    (distinct : (table.map Prod.fst).Nodup) : ((amend key change table).map Prod.fst).Nodup := by
  rw [amend_keys]
  split
  · exact distinct
  · rename_i unlisted
    exact List.nodup_append.mpr ⟨distinct, List.nodup_singleton key, by
      intro other listed last member same
      rw [same, List.mem_singleton.mp member] at listed
      exact unlisted listed⟩

theorem omit_distinct {table : List (κ × ν)} (key : κ)
    (distinct : (table.map Prod.fst).Nodup) : ((omitKey key table).map Prod.fst).Nodup := by
  rw [omit_keys]
  exact distinct.filter _

theorem erase_dups_snoc (keys : List κ) (key : κ) :
    (keys ++ [key]).eraseDups =
      if key ∈ keys.eraseDups then keys.eraseDups else keys.eraseDups ++ [key] := by
  rw [List.eraseDups_append, List.removeAll]
  by_cases known : key ∈ keys
  · have listed : key ∈ keys.eraseDups := List.mem_eraseDups.mpr known
    simp [known, listed]
  · have unlisted : key ∉ keys.eraseDups := fun listed => known (List.mem_eraseDups.mp listed)
    simp [known, unlisted, List.eraseDups_cons]

/-! Values. -/

theorem lookup_entry (key other : κ) (value : ν) (rest : List (κ × ν)) :
    ((key, value) :: rest).lookup other =
      if other = key then some value else rest.lookup other := by
  rw [List.lookup_cons]
  by_cases same : other = key
  · simp [same]
  · rw [beq_eq_false_iff_ne.mpr same, if_neg same]

theorem amend_lookup (key other : κ) (change : Option ν → ν) (table : List (κ × ν)) :
    (amend key change table).lookup other =
      if other = key then some (change (table.lookup key)) else table.lookup other := by
  induction table with
  | nil => exact lookup_entry key other (change none) []
  | cons entry rest ih =>
      obtain ⟨first, value⟩ := entry
      by_cases here : first = key
      · subst here
        simp only [amend, lookup_entry, if_true]
        split <;> rfl
      · rw [amend, if_neg here, lookup_entry, ih, lookup_entry, lookup_entry,
          if_neg (Ne.symm here)]
        by_cases asked : other = first
        · rw [asked, if_pos rfl, if_neg here, if_pos rfl]
        · rw [if_neg asked, if_neg asked]

theorem mem_amend {key : κ} {change : Option ν → ν} {table : List (κ × ν)} {entry : κ × ν}
    (member : entry ∈ amend key change table) : entry ∈ table ∨ ∃ held, entry.2 = change held := by
  induction table with
  | nil =>
      rw [List.mem_singleton.mp member]
      exact .inr ⟨none, rfl⟩
  | cons first rest ih =>
      rw [amend] at member
      split at member
      · rcases List.mem_cons.mp member with rfl | later
        · exact .inr ⟨some first.2, rfl⟩
        · exact .inl (List.mem_cons_of_mem first later)
      · rcases List.mem_cons.mp member with rfl | later
        · exact .inl List.mem_cons_self
        · exact (ih later).imp_left (List.mem_cons_of_mem first)

theorem omit_lookup (key other : κ) (table : List (κ × ν)) :
    (omitKey key table).lookup other = if other = key then none else table.lookup other := by
  induction table with
  | nil => simp [omitKey]
  | cons entry rest ih =>
      obtain ⟨first, value⟩ := entry
      unfold omitKey at ih ⊢
      by_cases here : first = key
      · rw [List.filter_cons_of_neg (by simpa using here), ih, lookup_entry, here]
        split <;> rfl
      · rw [List.filter_cons_of_pos (by simpa using here), lookup_entry, ih, lookup_entry]
        by_cases asked : other = first
        · rw [asked, if_pos rfl, if_neg here, if_pos rfl]
        · rw [if_neg asked, if_neg asked]

theorem lookup_unlisted {table : List (κ × ν)} {key : κ} (unlisted : key ∉ table.map Prod.fst) :
    table.lookup key = none := by
  rw [List.lookup_eq_none_iff]
  intro entry member
  rw [bne_iff_ne]
  rintro rfl
  exact unlisted (List.mem_map_of_mem member)

theorem table_spelled_out {table : List (κ × ν)} (distinct : (table.map Prod.fst).Nodup)
    (default : ν) :
    table = (table.map Prod.fst).map fun key => (key, (table.lookup key).getD default) := by
  induction table with
  | nil => rfl
  | cons entry rest ih =>
      obtain ⟨first, value⟩ := entry
      obtain ⟨fresh, distinctLater⟩ := List.nodup_cons.mp distinct
      have later : ∀ key ∈ rest.map Prod.fst,
          (key, (rest.lookup key).getD default) =
            (key, (((first, value) :: rest).lookup key).getD default) := by
        intro key listed
        have apart : key ≠ first := by
          rintro rfl
          exact fresh listed
        rw [lookup_entry, if_neg apart]
      rw [List.map_cons, List.map_cons, List.lookup_cons_self, ← List.map_congr_left later,
        ← ih distinctLater]
      rfl

end

end SelectorAudit.Report
