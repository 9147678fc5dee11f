import Mathlib.Data.Nat.Digits.Defs
import SelectorAudit.Proofs.Stylesheet.NameSpelling

/-!
# Reading escapes

A text spells a string character by character: a character stands for itself, for the one behind its
backslash, or its code point is written in hexadecimal digits. The digits go on as long as they can,
up to six, and swallow one blank. The decoder reads every such spelling back, and every text that
does not end in a backslash is one.
-/

namespace SelectorAudit.Stylesheet

set_option autoImplicit false

open Text

/-- The place of a digit in the table of digits, where capitals count as small letters. -/
def digitValue (digit : Char) : Nat :=
  "0123456789abcdef".toList.idxOf digit.toLower

def digitsNumber (digits : List Char) : Nat :=
  Nat.ofDigits 16 (digits.reverse.map digitValue)

/-- The character that a number stands for. NUL, the surrogates and what lies beyond the last code
point stand for the replacement character. -/
inductive StandsFor : Nat → Char → Prop where
  | itself (c : Char) (present : c.toNat ≠ 0) : StandsFor c.toNat c
  | replaced {n : Nat} (refused : n = 0 ∨ (0xd800 ≤ n ∧ n ≤ 0xdfff) ∨ 0x10ffff < n) :
      StandsFor n '\ufffd'

/-- A text and the string that it spells with escapes. -/
inductive SpellsOut : List Char → List Char → Prop where
  | nothing : SpellsOut [] []
  | literal {text string : List Char} (c : Char) (plain : c ≠ '\\') (later : SpellsOut text string) :
      SpellsOut (c :: text) (c :: string)
  | simple {text string : List Char} (c : Char) (notHex : isHexDigit c = false)
      (later : SpellsOut text string) : SpellsOut ('\\' :: c :: text) (c :: string)
  | ended {text string : List Char} {c : Char} (digits : List Char) (blank : Char)
      (proper : EscapeDigits digits) (named : StandsFor (digitsNumber digits) c)
      (ends : blank = ' ' ∨ blank = '\t' ∨ blank = '\n') (later : SpellsOut text string) :
      SpellsOut ('\\' :: (digits ++ blank :: text)) (c :: string)
  | unended {text string : List Char} {c : Char} (digits : List Char)
      (proper : EscapeDigits digits) (named : StandsFor (digitsNumber digits) c)
      (apart : ∀ next ∈ text.head?, next ≠ ' ' ∧ next ≠ '\t' ∧ next ≠ '\n' ∧
        (digits.length < 6 → isHexDigit next = false)) (later : SpellsOut text string) :
      SpellsOut ('\\' :: (digits ++ text)) (c :: string)

/-! The character of an escape. -/

theorem hex_digit_ascii {c : Char} (digit : isHexDigit c = true) : c.toNat < 128 := by
  simp only [isHexDigit, Bool.or_eq_true, Bool.and_eq_true, decide_eq_true_eq, Char.le_def,
    UInt32.le_iff_toNat_le, Char.reduceVal, UInt32.reduceToNat] at digit
  rw [Char.toNat]
  omega

theorem hex_value_place {c : Char} (digit : isHexDigit c = true) : hexValue c = digitValue c := by
  have table : ∀ n < 128, isHexDigit (Char.ofNat n) = true →
      hexValue (Char.ofNat n) = digitValue (Char.ofNat n) := by decide +kernel
  have found := table c.toNat (hex_digit_ascii digit)
  rw [Char.ofNat_toNat] at found
  exact found digit

theorem hex_number_digits {digits : List Char}
    (hexadecimal : ∀ digit ∈ digits, isHexDigit digit = true) :
    hexNumber digits = digitsNumber digits := by
  have reversed : ∀ digit ∈ digits.reverse, isHexDigit digit = true := by
    intro digit member
    exact hexadecimal digit (List.mem_reverse.mp member)
  rw [hexNumber, digitsNumber, ← List.foldr_reverse]
  generalize digits.reverse = places at reversed ⊢
  induction places with
  | nil => rfl
  | cons digit rest ih =>
      obtain ⟨first, later⟩ := List.forall_mem_cons.mp reversed
      rw [List.foldr_cons, List.map_cons, Nat.ofDigits_cons, ih later, hex_value_place first,
        Nat.add_comm, Nat.mul_comm]

theorem code_point_stands {n : Nat} {c : Char} (stands : StandsFor n c) : codePoint n = c := by
  cases stands with
  | itself c present => exact code_point_char present
  | replaced refused =>
      apply if_pos
      simpa [or_assoc] using refused

theorem stands_code_point (n : Nat) : StandsFor n (codePoint n) := by
  unfold codePoint
  split
  · next refused =>
      apply StandsFor.replaced
      simpa [or_assoc] using refused
  · next accepted =>
      simp only [Bool.or_eq_true, Bool.and_eq_true, beq_iff_eq, decide_eq_true_eq, not_or,
        not_and] at accepted
      have scalar : n.isValidChar := by
        unfold Nat.isValidChar
        omega
      have number : (Char.ofNat n).toNat = n := by
        rw [Char.ofNat, dif_pos scalar]
        rfl
      have stands := StandsFor.itself (Char.ofNat n) (by rw [number]; exact accepted.1.1)
      rwa [number] at stands

/-! The decoder on one part of a spelling. -/

theorem ends_escape_iff (c : Char) : endsEscape c = true ↔ c = ' ' ∨ c = '\t' ∨ c = '\n' := by
  simp [endsEscape, or_assoc]

theorem unescape_ended {digits : List Char} (proper : EscapeDigits digits) {blank : Char}
    (ends : endsEscape blank = true) (rest : List Char) :
    unescape ('\\' :: (digits ++ blank :: rest)) =
      codePoint (digitsNumber digits) :: unescape rest := by
  have noDigit : isHexDigit blank = false := by
    rcases (ends_escape_iff blank).mp ends with rfl | rfl | rfl <;> rfl
  have step : (EscapeState.digits digits.reverse).step blank =
      ([codePoint (hexNumber digits)], .plain) := by
    simp [EscapeState.step, noDigit, ends, EscapeState.flush]
  rw [unescape, unescape_opened proper, unescapeFrom, step, hex_number_digits proper.hexadecimal]
  rfl

theorem unescape_unended {digits rest : List Char} (proper : EscapeDigits digits)
    (apart : ∀ next ∈ rest.head?, endsEscape next = false ∧
      (digits.length < 6 → isHexDigit next = false)) :
    unescape ('\\' :: (digits ++ rest)) = codePoint (digitsNumber digits) :: unescape rest := by
  have seen : digits.reverse.length = digits.length := List.length_reverse
  rw [unescape, unescape_opened proper, unescape_flush (by rw [seen]; exact apart),
    List.reverse_reverse, hex_number_digits proper.hexadecimal]
  rfl

theorem unescape_spelled {text string : List Char} (spelled : SpellsOut text string) :
    unescape text = string := by
  induction spelled with
  | nothing => rfl
  | literal c plain later ih =>
      rw [← ih]
      simp [unescape, unescapeFrom, EscapeState.step, plain]
  | simple c notHex later ih =>
      rw [← ih]
      simp [unescape, unescapeFrom, EscapeState.step, notHex]
  | ended digits blank proper named ends later ih =>
      rw [unescape_ended proper ((ends_escape_iff blank).mpr ends), code_point_stands named, ih]
  | unended digits proper named apart later ih =>
      rw [unescape_unended proper, code_point_stands named, ih]
      intro next member
      obtain ⟨noSpace, noTab, noFeed, noDigit⟩ := apart next member
      refine ⟨?_, noDigit⟩
      rw [Bool.eq_false_iff, ne_eq, ends_escape_iff]
      simp [noSpace, noTab, noFeed]

/-! Every text is a spelling. -/

/-- Digits are taken as long as they go on, up to a number of them. -/
theorem digits_split (most : Nat) (text : List Char) :
    ∃ digits rest, text = digits ++ rest ∧ digits.length ≤ most ∧
      (∀ digit ∈ digits, isHexDigit digit = true) ∧
      ∀ next ∈ rest.head?, digits.length < most → isHexDigit next = false := by
  induction most generalizing text with
  | zero => exact ⟨[], text, rfl, Nat.le_refl 0, nofun, nofun⟩
  | succ most ih =>
      cases text with
      | nil => exact ⟨[], [], rfl, Nat.zero_le _, nofun, nofun⟩
      | cons c text =>
          cases digit : isHexDigit c with
          | true =>
              obtain ⟨digits, rest, split, few, hexadecimal, stops⟩ := ih text
              refine ⟨c :: digits, rest, by rw [split]; rfl, Nat.succ_le_succ few,
                List.forall_mem_cons.mpr ⟨digit, hexadecimal⟩, ?_⟩
              intro next member room
              exact stops next member (Nat.lt_of_succ_lt_succ room)
          | false =>
              refine ⟨[], c :: text, rfl, Nat.zero_le _, nofun, ?_⟩
              intro next member _
              rw [← Option.some.inj member]
              exact digit

theorem whole_behind {before rest : List Char} {c : Char}
    (whole : (before ++ rest).getLast? ≠ some c) : rest.getLast? ≠ some c := by
  intro last
  apply whole
  rw [List.getLast?_append, last]
  rfl

theorem spelled_digits {digits rest : List Char} (proper : EscapeDigits digits)
    (stops : ∀ next ∈ rest.head?, digits.length < 6 → isHexDigit next = false)
    (later : ∀ behind, behind <:+ rest → ∃ string, SpellsOut behind string) :
    ∃ string, SpellsOut ('\\' :: (digits ++ rest)) string := by
  have named := stands_code_point (digitsNumber digits)
  by_cases ended : ∃ blank behind, rest = blank :: behind ∧ endsEscape blank = true
  · obtain ⟨blank, behind, rfl, ends⟩ := ended
    obtain ⟨string, spelled⟩ := later behind (List.suffix_cons blank behind)
    exact ⟨_, .ended digits blank proper named ((ends_escape_iff blank).mp ends) spelled⟩
  · obtain ⟨string, spelled⟩ := later rest List.suffix_rfl
    refine ⟨_, .unended digits proper named ?_ spelled⟩
    intro next member
    obtain ⟨behind, rfl⟩ := List.head?_eq_some_iff.mp member
    have goes : ¬ (next = ' ' ∨ next = '\t' ∨ next = '\n') := by
      rw [← ends_escape_iff]
      exact fun ends => ended ⟨next, behind, rfl, ends⟩
    rw [not_or, not_or] at goes
    exact ⟨goes.1, goes.2.1, goes.2.2, stops next member⟩

theorem escape_digits_split {first : Char} (digit : isHexDigit first = true) (text : List Char) :
    ∃ digits rest, first :: text = digits ++ rest ∧ EscapeDigits digits ∧
      ∀ next ∈ rest.head?, digits.length < 6 → isHexDigit next = false := by
  obtain ⟨digits, rest, split, few, hexadecimal, stops⟩ := digits_split 6 (first :: text)
  refine ⟨digits, rest, split, ⟨?_, few, hexadecimal⟩, stops⟩
  rintro rfl
  have none : isHexDigit first = false := stops first (by rw [← List.nil_append rest, ← split]; rfl)
    (by simp)
  rw [digit] at none
  cases none

theorem spelled_of_whole (text : List Char) (whole : text.getLast? ≠ some '\\') :
    ∃ string, SpellsOut text string := by
  induction size : text.length using Nat.strongRecOn generalizing text with
  | ind size ih =>
      subst size
      cases text with
      | nil => exact ⟨[], .nothing⟩
      | cons c text =>
          have later (rest : List Char) (behind : rest <:+ text) :
              ∃ string, SpellsOut rest string := by
            obtain ⟨before, rfl⟩ := behind
            rw [← List.cons_append] at whole
            have shorter : rest.length < (c :: (before ++ rest)).length := by
              rw [List.length_cons, List.length_append]
              omega
            exact ih rest.length shorter rest (whole_behind whole) rfl
          by_cases backslash : c = '\\'
          · subst backslash
            cases text with
            | nil => exact absurd rfl whole
            | cons next rest =>
                cases digit : isHexDigit next with
                | false =>
                    obtain ⟨string, spelled⟩ := later rest (List.suffix_cons next rest)
                    exact ⟨next :: string, .simple next digit spelled⟩
                | true =>
                    obtain ⟨digits, behind, split, proper, stops⟩ := escape_digits_split digit rest
                    rw [split] at later ⊢
                    apply spelled_digits proper stops
                    intro tail suffix
                    exact later tail (suffix.trans (List.suffix_append digits behind))
          · obtain ⟨string, spelled⟩ := later text List.suffix_rfl
            exact ⟨c :: string, .literal c backslash spelled⟩

/-- The decoder gives back the string that a text spells, with one replacement character for each
escape of a number that stands for no character. Every text that does not end in a backslash spells
a string. -/
theorem unescape_reads_spelling (text : List Char) :
    (∀ string, SpellsOut text string → unescape text = string) ∧
      (text.getLast? ≠ some '\\' → ∃ string, SpellsOut text string) :=
  ⟨fun _ spelled => unescape_spelled spelled, spelled_of_whole text⟩

/-- A digit that a blank keeps from the letter behind it, an escaped backslash, six digits before a
letter that could be a seventh, and a number that is too large. -/
theorem unescape_reads_spelling_mixed :
    SpellsOut "\\31 a\\\\\\0000e9f\\110000\\+".toList "1a\\éf\ufffd+".toList ∧
      unescape "\\31 a\\\\\\0000e9f\\110000\\+".toList = "1a\\éf\ufffd+".toList := by
  have one : EscapeDigits "31".toList := ⟨by decide, by decide, List.all_eq_true.mp rfl⟩
  have six : EscapeDigits "0000e9".toList := ⟨by decide, by decide, List.all_eq_true.mp rfl⟩
  have large : EscapeDigits "110000".toList := ⟨by decide, by decide, List.all_eq_true.mp rfl⟩
  have spelled : SpellsOut "\\31 a\\\\\\0000e9f\\110000\\+".toList "1a\\éf\ufffd+".toList :=
    .ended "31".toList ' ' one (.itself '1' (by decide)) (.inl rfl) <|
    .literal 'a' (by decide) <|
    .simple '\\' rfl <|
    .unended "0000e9".toList six (.itself 'é' (by decide)) (by rintro _ ⟨⟩; decide) <|
    .literal 'f' (by decide) <|
    .unended "110000".toList large (.replaced (by decide)) (by rintro _ ⟨⟩; decide) <|
    .simple '+' rfl .nothing
  exact ⟨spelled, (unescape_reads_spelling _).1 _ spelled⟩

end SelectorAudit.Stylesheet
