import SelectorAudit.Text.Search

/-!
# What a search finds

A test that holds somewhere in a text is found to hold, whatever stands around that place; and a word
is found at the start of exactly the texts that begin with it.
-/

namespace SelectorAudit.Text

set_option autoImplicit false

theorem any_tail_append {test : List Char → Bool} {text : List Char} (before : List Char)
    (holds : anyTail test text = true) : anyTail test (before ++ text) = true := by
  induction before with
  | nil => exact holds
  | cons c before ih => rw [List.cons_append, anyTail, ih, Bool.or_true]

theorem any_tail_suffix {test : List Char → Bool} {tail text : List Char} (suffix : tail <:+ text)
    (holds : test tail = true) : anyTail test text = true := by
  obtain ⟨before, whole⟩ := suffix
  have found : anyTail test tail = true := by
    cases tail with
    | nil => exact holds
    | cons c rest => rw [anyTail, holds, Bool.true_or]
  rw [← whole]
  exact any_tail_append before found

theorem behind_word_starts {word text behind : List Char}
    (found : behindWord? word text = some behind) : word <+: text := by
  unfold behindWord? at found
  split at found
  · rename_i starts
    exact List.isPrefixOf_iff_prefix.mp starts
  · cases found

theorem behind_word_suffix {word text behind : List Char}
    (found : behindWord? word text = some behind) : behind <:+ text := by
  unfold behindWord? at found
  split at found
  · rw [← Option.some.inj found]
    exact List.drop_suffix _ _
  · cases found

theorem behind_word_append (word rest : List Char) :
    behindWord? word (word ++ rest) = some rest := by
  simp [behindWord?, List.isPrefixOf_iff_prefix]

theorem word_not_behind {word text : List Char} {c first : Char} (other : c ≠ first) :
    behindWord? (first :: word) (c :: text) = none := by
  rw [Option.eq_none_iff_forall_ne_some]
  intro behind found
  obtain ⟨rest, same⟩ := behind_word_starts found
  exact other (List.cons.inj same).1.symm

end SelectorAudit.Text
