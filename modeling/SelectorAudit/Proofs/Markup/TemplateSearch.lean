import Mathlib.Data.List.Chain
import Mathlib.Data.List.Forall2
import SelectorAudit.Markup.Template
import SelectorAudit.Proofs.Stylesheet.SelectorSplitting
import SelectorAudit.Proofs.Text.Search

/-!
# Searching a template

What a search by one pattern gives can be told stretch by stretch: a stretch yields some captures
if the search goes on behind it as it would there anyway. A stretch in which the pattern starts
nowhere yields none. For three of the patterns their first character decides that; an attribute
asks for more, since blanks may separate its name from the equals sign.
-/

namespace SelectorAudit.Markup.Template

set_option autoImplicit false

open Text Stylesheet

section

variable {α : Type} {pattern : Pattern α}

/-- The search passes over a stretch with these captures and goes on with what stands behind it. -/
def Yields (pattern : Pattern α) (before : Option Char) (text rest : List Char)
    (captures : List α) : Prop :=
  ∃ last, findFrom pattern before 0 (text ++ rest) = captures ++ findFrom pattern last 0 rest

def Misses (pattern : Pattern α) (text rest : List Char) : Prop :=
  ∀ c back, c :: back <:+ text → ∀ before, pattern before (c :: (back ++ rest)) = none

theorem find_skipped (before : Option Char) (passed rest : List Char) :
    ∃ last, findFrom pattern before passed.length (passed ++ rest) =
      findFrom pattern last 0 rest := by
  induction passed generalizing before with
  | nil => exact ⟨before, rfl⟩
  | cons c passed ih => exact ih (some c)

theorem yields_found {before : Option Char} {text rest : List Char} {capture : α}
    (nonempty : text ≠ []) (found : pattern before (text ++ rest) = some (capture, text.length)) :
    Yields pattern before text rest [capture] := by
  cases text with
  | nil => exact absurd rfl nonempty
  | cons c text =>
      have skipped : ∃ last, findFrom pattern (some c) text.length (text ++ rest) =
          findFrom pattern last 0 rest := find_skipped (some c) text rest
      obtain ⟨last, skipped⟩ := skipped
      refine ⟨last, ?_⟩
      rw [List.cons_append] at found ⊢
      rw [findFrom, found]
      exact congrArg (List.cons capture) skipped

theorem yields_missed {text rest : List Char} (missed : Misses pattern text rest)
    (before : Option Char) : Yields pattern before text rest [] := by
  induction text generalizing before with
  | nil => exact ⟨before, rfl⟩
  | cons c text ih =>
      have later : Misses pattern text rest := by
        intro other back suffix
        exact missed other back (suffix.trans (List.suffix_cons c text))
      obtain ⟨last, found⟩ := ih later (some c)
      refine ⟨last, ?_⟩
      rw [List.cons_append, findFrom, missed c text List.suffix_rfl before]
      exact found

theorem yields_append {before : Option Char} {first second rest : List Char}
    {captures others : List α} (here : Yields pattern before first (second ++ rest) captures)
    (later : ∀ last, Yields pattern last second rest others) :
    Yields pattern before (first ++ second) rest (captures ++ others) := by
  obtain ⟨middle, found⟩ := here
  obtain ⟨last, foundLater⟩ := later middle
  refine ⟨last, ?_⟩
  rw [List.append_assoc, found, foundLater, List.append_assoc]

theorem misses_cons {c : Char} {text rest : List Char}
    (here : ∀ before, pattern before (c :: (text ++ rest)) = none)
    (later : Misses pattern text rest) : Misses pattern (c :: text) rest := by
  intro other back suffix before
  rcases List.suffix_cons_iff.mp suffix with same | suffix
  · obtain ⟨rfl, rfl⟩ := List.cons.inj same
    exact here before
  · exact later other back suffix before

def StartsWith (pattern : Pattern α) (first : Char) : Prop :=
  ∀ before c text, c ≠ first → pattern before (c :: text) = none

theorem misses_without {first : Char} {text : List Char} (starts : StartsWith pattern first)
    (rest : List Char) (absent : first ∉ text) : Misses pattern text rest := by
  intro c back suffix before
  apply starts
  rintro rfl
  exact absent (suffix.subset List.mem_cons_self)

end

/-! Bindings and interpolations. -/

theorem class_list_starts : StartsWith classListBinding '[' := by
  intro before c text other
  have first : behindWord? "[ngClass]".toList (c :: text) = none := word_not_behind other
  have second : behindWord? "[class]".toList (c :: text) = none := word_not_behind other
  simp only [classListBinding, first, second, Option.or_none]

theorem class_binding_starts : StartsWith classBinding '[' := by
  intro before c text other
  have missing : behindWord? "[class.".toList (c :: text) = none := word_not_behind other
  simp only [classBinding, missing]

theorem interpolation_starts_brace : StartsWith interpolation '{' := by
  intro before c text other
  unfold interpolation
  split
  · rename_i same
    exact absurd (List.cons.inj same).1 other
  · rfl

/-! Attributes. -/

theorem run_split {test : Char → Bool} {run : List Char} {stop : Char} (rest : List Char)
    (inside : ∀ c ∈ run, test c = true) (outside : test stop = false) :
    (run ++ stop :: rest).takeWhile test = run ∧
      (run ++ stop :: rest).dropWhile test = stop :: rest := by
  have stops : ¬ test stop = true := by simp [outside]
  constructor
  · rw [List.takeWhile_append_of_pos inside, List.takeWhile_cons_of_neg stops, List.append_nil]
  · rw [List.dropWhile_append_of_pos inside, List.dropWhile_cons_of_neg stops]

theorem run_without {run : List Char} {stop : Char} (rest : List Char) (free : stop ∉ run) :
    (run ++ stop :: rest).takeWhile (fun c => c != stop) = run ∧
      (run ++ stop :: rest).dropWhile (fun c => c != stop) = stop :: rest := by
  have different : ∀ c ∈ run, (c != stop) = true := by
    intro c member
    rw [bne_iff_ne]
    rintro rfl
    exact free member
  exact run_split rest different (by simp)

theorem assigned_value_found {mark : Char} {value : List Char} (rest : List Char)
    (quotes : isQuote mark = true) (free : mark ∉ value) :
    assignedValue? ('=' :: mark :: (value ++ mark :: rest)) = some (value, rest) := by
  have tight : trimLeft (mark :: (value ++ mark :: rest)) = mark :: (value ++ mark :: rest) := by
    apply trim_left_of_head
    intro c member
    obtain rfl : mark = c := Option.some.inj member
    exact quote_not_blank quotes
  obtain ⟨taken, dropped⟩ := run_without rest free
  have sign : trimLeft ('=' :: mark :: (value ++ mark :: rest)) =
      '=' :: mark :: (value ++ mark :: rest) := rfl
  simp only [assignedValue?, sign, tight, quotes, if_true, taken, dropped]

theorem assigned_value_split {text : List Char} {found : List Char × List Char}
    (assigned : assignedValue? text = some found) :
    ∃ blanks tail, text = blanks ++ '=' :: tail ∧ ∀ c ∈ blanks, isBlank c = true := by
  unfold assignedValue? at assigned
  split at assigned
  · rename_i value trimmed
    refine ⟨text.takeWhile isBlank, value, ?_, fun c member => List.mem_takeWhile_imp member⟩
    rw [← trimmed, trimLeft, List.takeWhile_append_dropWhile]
  · cases assigned

def InForms (word letters : List Char) : Prop :=
  List.Forall₂ (fun letter c => isFormOf letter c = true) word letters

theorem form_of_letter {word letters : List Char} {c : Char} (forms : InForms word letters)
    (member : c ∈ letters) : ∃ letter ∈ word, isFormOf letter c = true := by
  induction forms with
  | nil => cases member
  | @cons letter other word letters form _ ih =>
      rcases List.mem_cons.mp member with rfl | later
      · exact ⟨letter, List.mem_cons_self, form⟩
      · obtain ⟨found, inWord, formFound⟩ := ih later
        exact ⟨found, List.mem_cons_of_mem letter inWord, formFound⟩

theorem behind_forms_split {word text behind : List Char}
    (found : behindFormsOf? word text = some behind) :
    ∃ letters, text = letters ++ behind ∧ InForms word letters := by
  induction word generalizing text with
  | nil =>
      obtain rfl := Option.some.inj found
      exact ⟨[], rfl, .nil⟩
  | cons letter word ih =>
      cases text with
      | nil => cases found
      | cons c text =>
          unfold behindFormsOf? at found
          split at found
          · rename_i form
            obtain ⟨letters, rfl, forms⟩ := ih found
            exact ⟨c :: letters, rfl, .cons form forms⟩
          · cases found

/-- No equals sign stands directly behind a blank. -/
def Assigned (text : List Char) : Prop :=
  text.IsChain fun c next => next = '=' → isBlank c = false

/-- What may stand behind a stretch: nothing, or a blank and more text. -/
structure Follows (rest : List Char) : Prop where
  separated : ∀ c ∈ rest.head?, c = ' '
  assigned : Assigned rest

/-- Where no equals sign follows a blank, an attribute has its name right before the sign. -/
theorem attribute_value_split {name text : List Char} {before : Option Char}
    {found : List Char × Nat} (assigned : Assigned text)
    (matched : attributeValue name before text = some found) :
    ∃ letters tail, text = letters ++ '=' :: tail ∧ InForms name letters := by
  unfold attributeValue at matched
  split at matched
  · cases matched
  · split at matched
    · cases matched
    · rename_i behind named
      obtain ⟨letters, rfl, forms⟩ := behind_forms_split named
      obtain ⟨value, valueFound, _⟩ := Option.map_eq_some_iff.mp matched
      obtain ⟨blanks, tail, rfl, blank⟩ := assigned_value_split valueFound
      rcases List.eq_nil_or_concat' blanks with rfl | ⟨others, last, rfl⟩
      · exact ⟨letters, tail, rfl, forms⟩
      · have pair : [last, '='] <:+: letters ++ (others ++ [last] ++ '=' :: tail) :=
          ⟨letters ++ others, tail, by simp⟩
        have chain := List.IsChain.infix assigned pair
        have solid := List.isChain_pair.mp chain rfl
        rw [blank last (by simp)] at solid
        cases solid

theorem attribute_value_inside {name text rest : List Char} {before : Option Char}
    {found : List Char × Nat} (apart : ∀ letter ∈ name, isFormOf letter ' ' = false)
    (follows : Follows rest) (assigned : Assigned (text ++ rest))
    (matched : attributeValue name before (text ++ rest) = some found) :
    ∃ letters tail, text = letters ++ '=' :: tail ∧ InForms name letters := by
  obtain ⟨letters, tail, same, forms⟩ := attribute_value_split assigned matched
  rcases List.append_eq_append_iff.mp same with ⟨crossing, rfl, behind⟩ | ⟨inner, rfl, behind⟩
  · have separated := follows.separated
    rw [behind] at separated
    cases crossing with
    | nil => exact absurd (separated '=' rfl) (by decide)
    | cons c crossing =>
        obtain rfl : c = ' ' := separated c rfl
        have member : ' ' ∈ text ++ ' ' :: crossing := by simp
        obtain ⟨letter, inName, form⟩ := form_of_letter forms member
        rw [apart letter inName] at form
        cases form
  · cases inner with
    | nil =>
        have separated := follows.separated
        rw [List.nil_append] at behind
        rw [← behind] at separated
        exact absurd (separated '=' rfl) (by decide)
    | cons c inner =>
        obtain ⟨rfl, rfl⟩ := List.cons.inj behind
        exact ⟨letters, inner, rfl, forms⟩

end SelectorAudit.Markup.Template
