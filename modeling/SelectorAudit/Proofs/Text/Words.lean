import SelectorAudit.Text.Identifier

/-!
# Words

The words of a text are never empty, hold no blanks and stand in the text as they are, and words
that are joined by single blanks are found again. So a list of words is as good as the text that they
make up.
-/

namespace SelectorAudit.Text

set_option autoImplicit false

structure Solid (word : List Char) : Prop where
  nonempty : word ≠ []
  unbroken : ∀ c ∈ word, isBlank c = false

theorem words_from_solid (current text : List Char) (unbroken : ∀ c ∈ current, isBlank c = false) :
    ∀ word ∈ wordsFrom current text, Solid word := by
  have complete : current ≠ [] → Solid current.reverse := by
    intro begun
    refine ⟨fun empty => begun (List.reverse_eq_nil_iff.mp empty), ?_⟩
    intro c member
    exact unbroken c (List.mem_reverse.mp member)
  induction text generalizing current with
  | nil =>
      intro word member
      unfold wordsFrom at member
      split at member
      · cases member
      · rename_i begun
        rw [List.mem_singleton.mp member]
        exact complete (by simpa using begun)
  | cons c rest ih =>
      intro word member
      unfold wordsFrom at member
      split at member
      · split at member
        · exact ih [] (List.forall_mem_nil _) (absurd rfl) word member
        · rename_i begun
          rcases List.mem_cons.mp member with here | later
          · rw [here]
            exact complete (by simpa using begun)
          · exact ih [] (List.forall_mem_nil _) (absurd rfl) word later
      · rename_i solid
        have grown : ∀ d ∈ c :: current, isBlank d = false :=
          List.forall_mem_cons.mpr ⟨by simpa using solid, unbroken⟩
        refine ih (c :: current) grown ?_ word member
        intro _
        refine ⟨by simp, ?_⟩
        intro d inside
        exact grown d (List.mem_reverse.mp inside)

theorem words_solid (text : List Char) : ∀ word ∈ words text, Solid word :=
  words_from_solid [] text (List.forall_mem_nil _)

theorem words_from_inside (current text : List Char) :
    ∀ word ∈ wordsFrom current text, word <:+: current.reverse ++ text := by
  induction text generalizing current with
  | nil =>
      intro word member
      unfold wordsFrom at member
      split at member
      · cases member
      · rw [List.mem_singleton.mp member]
        exact (List.prefix_append _ _).isInfix
  | cons c rest ih =>
      intro word member
      have behind : word ∈ wordsFrom [] rest → word <:+: current.reverse ++ c :: rest := by
        intro later
        have inside : word <:+: rest := ih [] word later
        exact inside.trans ⟨current.reverse ++ [c], [], by simp⟩
      unfold wordsFrom at member
      split at member
      · split at member
        · exact behind member
        · rcases List.mem_cons.mp member with rfl | later
          · exact (List.prefix_append _ _).isInfix
          · exact behind later
      · have whole := ih (c :: current) word member
        rwa [List.reverse_cons, List.append_assoc, List.singleton_append] at whole

theorem words_inside (text : List Char) : ∀ word ∈ words text, word <:+: text :=
  words_from_inside [] text

theorem words_from_append (current word rest : List Char)
    (unbroken : ∀ c ∈ word, isBlank c = false) :
    wordsFrom current (word ++ rest) = wordsFrom (word.reverse ++ current) rest := by
  induction word generalizing current with
  | nil => rfl
  | cons c more ih =>
      obtain ⟨here, others⟩ := List.forall_mem_cons.mp unbroken
      rw [List.cons_append, wordsFrom, here, if_neg Bool.false_ne_true, ih (c :: current) others]
      simp

theorem mem_intercalate {parts : List (List Char)} {mark c : Char}
    (member : c ∈ List.intercalate [mark] parts) : c = mark ∨ ∃ part ∈ parts, c ∈ part := by
  induction parts with
  | nil => cases member
  | cons first rest ih =>
      cases rest with
      | nil =>
          rw [List.intercalate_singleton] at member
          exact Or.inr ⟨first, List.mem_cons_self, member⟩
      | cons second more =>
          rw [List.intercalate_cons_cons, List.append_assoc, List.mem_append,
            List.singleton_append, List.mem_cons] at member
          rcases member with here | between | later
          · exact Or.inr ⟨first, List.mem_cons_self, here⟩
          · exact Or.inl between
          · rcases ih later with between | ⟨part, among, inside⟩
            · exact Or.inl between
            · exact Or.inr ⟨part, List.mem_cons_of_mem _ among, inside⟩

/-- Words with a blank between each two. -/
def joined (parts : List (List Char)) : List Char :=
  List.intercalate [' '] parts

theorem joined_cons (first second : List Char) (more : List (List Char)) :
    joined (first :: second :: more) = first ++ ' ' :: joined (second :: more) := by
  rw [joined, List.intercalate_cons_cons, List.append_assoc]
  rfl

theorem words_joined {parts : List (List Char)} (solid : ∀ part ∈ parts, Solid part) :
    words (joined parts) = parts := by
  induction parts with
  | nil => rfl
  | cons first rest ih =>
      obtain ⟨here, others⟩ := List.forall_mem_cons.mp solid
      have begun : first.reverse.isEmpty = false := by simpa using here.nonempty
      cases rest with
      | nil =>
          have alone := words_from_append [] first [] here.unbroken
          simp only [List.append_nil] at alone
          show wordsFrom [] (joined [first]) = [first]
          rw [show joined [first] = first by simp [joined], alone, wordsFrom, begun]
          simp
      | cons second more =>
          have behind : wordsFrom [] (joined (second :: more)) = second :: more := ih others
          rw [joined_cons, words, words_from_append [] first _ here.unbroken, List.append_nil,
            wordsFrom]
          rw [if_pos (by decide), begun, if_neg Bool.false_ne_true, behind, List.reverse_reverse]

theorem mem_static_tokens {text word : List Char} (member : word ∈ words text)
    (named : isIdentifier word = true) : String.ofList word ∈ staticTokens text :=
  List.mem_map.mpr ⟨word, List.mem_filter.mpr ⟨member, named⟩, rfl⟩

end SelectorAudit.Text
