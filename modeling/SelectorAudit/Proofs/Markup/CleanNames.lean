import SelectorAudit.Proofs.Markup.TemplateSegments
import SelectorAudit.Proofs.Stylesheet.DeclaredNames

/-!
# Template names are clean

A template need not be well formed: quotation marks may stay open, braces may be stray, and any
character may stand anywhere. Still no name comes out of it that is not one. What a search captures
is a stretch of the template, what is made of a capture is a stretch of the capture, and both ways
to tell a name, the test for identifiers and the one for bare names, let nothing through but the
characters of names. The line feed that the test for identifiers allows behind a name never gets
that far, because words hold no blanks.
-/

namespace SelectorAudit.Markup.Template

set_option autoImplicit false

open Text Stylesheet

/-- A name that stands in a text as it is: characters of names and nothing else, at least one. -/
structure CleanIn (text name : List Char) : Prop where
  nonempty : name ≠ []
  plain : ∀ c ∈ name, isNameChar c = true
  inside : name <:+: text

theorem CleanIn.within {name part text : List Char} (clean : CleanIn part name)
    (inside : part <:+: text) : CleanIn text name :=
  ⟨clean.nonempty, clean.plain, clean.inside.trans inside⟩

theorem behind_first_suffix {text rest : List Char} {first : Char}
    (trimmed : trimLeft text = first :: rest) : rest <:+ text := by
  have ending : first :: rest <:+ text := by
    rw [← trimmed]
    exact List.dropWhile_suffix isBlank
  exact (List.suffix_cons first rest).trans ending

/-! What is made of a capture. -/

theorem static_tokens_clean (text : List Char) :
    ∀ name ∈ staticTokens text, CleanIn text name.toList := by
  intro name member
  obtain ⟨word, kept, rfl⟩ := List.mem_map.mp member
  obtain ⟨among, identified⟩ := List.mem_filter.mp kept
  rw [String.toList_ofList]
  obtain ⟨stem, plain | feed⟩ := identifier_stem identified
  · refine ⟨?_, ?_, words_inside text word among⟩
    · rw [plain]
      exact stem.nonempty
    · rw [plain]
      exact stem.plain
  · have solid := (words_solid text word among).unbroken '\n' (by simp [feed])
    cases solid

theorem string_literal_inside {value literal : List Char}
    (found : stringLiteral? value = some literal) : literal <:+: value := by
  unfold stringLiteral? at found
  split at found
  · rename_i mark rest trimmed
    split at found
    · split at found
      · split at found
        · obtain rfl := Option.some.inj found
          exact (List.takeWhile_prefix _).isInfix.trans (behind_first_suffix trimmed).isInfix
        · cases found
      · cases found
    · cases found
  · cases found

theorem class_list_names_clean (value : List Char) :
    ∀ name ∈ classListNames value, CleanIn value name.toList := by
  intro name member
  unfold classListNames at member
  split at member
  · rename_i literal found
    exact (static_tokens_clean literal name member).within (string_literal_inside found)
  · split at member
    · cases member
    · exact static_tokens_clean value name member

theorem first_token_clean (value : List Char) :
    ∀ name ∈ (staticTokens value).take 1, CleanIn value name.toList := by
  intro name member
  exact static_tokens_clean value name (List.mem_of_mem_take member)

theorem interpolated_names_clean (inner : List Char) :
    ∀ name ∈ interpolatedNames inner, CleanIn inner name.toList := by
  intro name member
  unfold interpolatedNames at member
  split at member
  · rename_i bare
    rw [List.mem_singleton.mp member, String.toList_ofList]
    let stem : BareName := ⟨trim inner, bare⟩
    exact ⟨bare_name_nonempty stem, bare_name_chars stem, trimmed_inside inner⟩
  · cases member

/-! What the patterns capture. -/

theorem assigned_value_inside {text : List Char} {found : List Char × List Char}
    (assigned : assignedValue? text = some found) : found.1 <:+: text := by
  unfold assignedValue? at assigned
  split at assigned
  · rename_i value signed
    split at assigned
    · rename_i mark rest marked
      split at assigned
      · split at assigned
        · obtain rfl := Option.some.inj assigned
          have ending : rest <:+ text :=
            (behind_first_suffix marked).trans (behind_first_suffix signed)
          exact (List.takeWhile_prefix _).isInfix.trans ending.isInfix
        · cases assigned
      · cases assigned
    · cases assigned
  · cases assigned

/-- A pattern captures stretches of the text it is tried on. -/
def Faithful (pattern : Pattern (List Char)) : Prop :=
  ∀ before text capture size, pattern before text = some (capture, size) → capture <:+: text

theorem attribute_value_faithful (name : List Char) : Faithful (attributeValue name) := by
  intro before text capture size matched
  unfold attributeValue at matched
  split at matched
  · cases matched
  · split at matched
    · cases matched
    · rename_i behind named
      obtain ⟨letters, rfl, _⟩ := behind_forms_split named
      obtain ⟨found, assigned, same⟩ := Option.map_eq_some_iff.mp matched
      obtain ⟨rfl, _⟩ := Prod.mk.inj same
      exact (assigned_value_inside assigned).trans (List.suffix_append _ _).isInfix

theorem class_list_binding_faithful : Faithful classListBinding := by
  intro before text capture size matched
  unfold classListBinding at matched
  split at matched
  · cases matched
  · rename_i behind named
    have ending : behind <:+ text := by
      rcases Option.or_eq_some_iff.mp named with found | ⟨_, found⟩
      · exact behind_word_suffix found
      · exact behind_word_suffix found
    obtain ⟨found, assigned, same⟩ := Option.map_eq_some_iff.mp matched
    obtain ⟨rfl, _⟩ := Prod.mk.inj same
    exact (assigned_value_inside assigned).trans ending.isInfix

theorem interpolation_faithful : Faithful interpolation := by
  intro before text capture size matched
  unfold interpolation at matched
  split at matched
  · rename_i rest
    dsimp only at matched
    split at matched
    · obtain ⟨rfl, _⟩ := Prod.mk.inj (Option.some.inj matched)
      have taken : (rest.takeWhile fun c => c != '}') <+: rest := List.takeWhile_prefix _
      exact taken.isInfix.trans ⟨['{', '{'], [], by simp⟩
    · cases matched
  · cases matched

theorem class_binding_clean {before : Option Char} {text capture : List Char} {size : Nat}
    (matched : classBinding before text = some (capture, size)) : CleanIn text capture := by
  unfold classBinding at matched
  split at matched
  · cases matched
  · rename_i rest named
    dsimp only at matched
    split at matched
    · rename_i first more behind taken _
      obtain ⟨rfl, _⟩ := Prod.mk.inj (Option.some.inj matched)
      refine ⟨?_, fun c member => List.mem_takeWhile_imp member, ?_⟩
      · rw [taken]
        exact List.cons_ne_nil _ _
      · exact (List.takeWhile_prefix _).isInfix.trans (behind_word_suffix named).isInfix
    · cases matched

/-! What a search captures. -/

theorem captured_at_end {α : Type} {pattern : Pattern α} {before : Option Char} {skip : Nat}
    {text : List Char} {capture : α} (member : capture ∈ findFrom pattern before skip text) :
    ∃ last ending size, ending <:+ text ∧ pattern last ending = some (capture, size) := by
  induction text generalizing before skip with
  | nil => cases member
  | cons c rest ih =>
      have later : ∀ {skipped : Nat}, capture ∈ findFrom pattern (some c) skipped rest →
          ∃ last ending size, ending <:+ c :: rest ∧
            pattern last ending = some (capture, size) := by
        intro skipped found
        obtain ⟨last, ending, size, suffix, matched⟩ := ih found
        exact ⟨last, ending, size, suffix.trans (List.suffix_cons c rest), matched⟩
      cases skip with
      | succ skip => exact later member
      | zero =>
          rw [findFrom] at member
          split at member
          · rename_i found size matched
            rcases List.mem_cons.mp member with rfl | behind
            · exact ⟨before, c :: rest, size, List.suffix_rfl, matched⟩
            · exact later behind
          · exact later member

theorem found_names_clean {pattern : Pattern (List Char)} {read : List Char → List String}
    (faithful : Faithful pattern)
    (clean : ∀ capture, ∀ name ∈ read capture, CleanIn capture name.toList)
    (template : List Char) :
    ∀ name ∈ (findAll pattern template).flatMap read, CleanIn template name.toList := by
  intro name member
  obtain ⟨capture, captured, made⟩ := List.mem_flatMap.mp member
  obtain ⟨before, ending, size, suffix, matched⟩ := captured_at_end captured
  have inside : capture <:+: template :=
    (faithful before ending capture size matched).trans suffix.isInfix
  exact (clean capture name made).within inside

theorem bound_names_clean (template : List Char) :
    ∀ name ∈ (findAll classBinding template).map String.ofList,
      CleanIn template name.toList := by
  intro name member
  obtain ⟨capture, captured, rfl⟩ := List.mem_map.mp member
  obtain ⟨before, ending, size, suffix, matched⟩ := captured_at_end captured
  rw [String.toList_ofList]
  exact (class_binding_clean matched).within suffix.isInfix

/-- Template names are always clean. Whatever a template holds, each name that it is found to use
has at least one character, consists of letters, digits, underscores and hyphens, and stands in the
template as it is. -/
theorem template_names_clean (template : List Char) :
    ∀ name ∈ names template, name.toList ≠ [] ∧ (∀ c ∈ name.toList, isNameChar c = true) ∧
      name.toList <:+: template := by
  intro name member
  have clean : CleanIn template name.toList := by
    simp only [names, List.mem_append] at member
    rcases member with (((inClass | inList) | inId) | interpolated) | bound
    · exact found_names_clean (attribute_value_faithful _) static_tokens_clean template name inClass
    · exact found_names_clean class_list_binding_faithful class_list_names_clean template name
        inList
    · exact found_names_clean (attribute_value_faithful _) first_token_clean template name inId
    · exact found_names_clean interpolation_faithful interpolated_names_clean template name
        interpolated
    · exact bound_names_clean template name bound
  exact ⟨clean.nonempty, clean.plain, clean.inside⟩

/-- An open tag, a long s in the name of its attribute, a letter that no name may hold, line feeds
behind names, a stray brace and a mark that is never closed. -/
def brokenTemplate : List Char :=
  "<p cla\u017fS='1-a \u00e9 b\n' \x7b\x7b c_3\n\x7d\x7d \x7b\x7b \x7d ".toList ++
    "[class.d]=\" Id=\"x y\" class='z".toList

theorem template_names_clean_broken :
    names brokenTemplate = ["1-a", "b", "x", "c_3", "d"] ∧
      ∀ name ∈ ["1-a", "b", "x", "c_3", "d"], name.toList ≠ [] ∧
        (∀ c ∈ name.toList, isNameChar c = true) ∧ name.toList <:+: brokenTemplate := by
  have found : names brokenTemplate = ["1-a", "b", "x", "c_3", "d"] := by decide +kernel
  exact ⟨found, found ▸ template_names_clean brokenTemplate⟩

end SelectorAudit.Markup.Template
