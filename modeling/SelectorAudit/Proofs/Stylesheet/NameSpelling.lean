import SelectorAudit.Proofs.Stylesheet.SelectorSplitting

/-!
# Escaped spellings of names

A character of a name can be written as itself, behind a backslash or by the hexadecimal digits of
its code point, and such digits may be ended by a blank. The decoder of names takes that blank for a
part of the escape, but the lexer of selectors ends the name in front of it. So a spelling stands
for its name only up to the first blank: what is written behind it is read as the name of an
element and adds nothing.
-/

namespace SelectorAudit.Stylesheet

set_option autoImplicit false

open Text

structure EscapeDigits (digits : List Char) : Prop where
  nonempty : digits ≠ []
  few : digits.length ≤ 6
  hexadecimal : ∀ digit ∈ digits, isHexDigit digit = true

structure HexEscape where
  digits : List Char
  ending : Option Char
  proper : EscapeDigits digits
  blank : ∀ c ∈ ending, c = ' ' ∨ c = '\t'

/-- The ways to write a character of a name. -/
inductive CharSpelling where
  | literal (c : Char) (plain : isNameChar c = true)
  | simple (c : Char) (plain : isNameChar c = true) (notHex : isHexDigit c = false)
  | hex (c : Char) (plain : isNameChar c = true) (escape : HexEscape)
      (value : hexNumber escape.digits = c.toNat)

namespace CharSpelling

def char : CharSpelling → Char
  | literal c _ => c
  | simple c _ _ => c
  | hex c _ _ _ => c

/-- What is written, without the blank that may end it. -/
def core : CharSpelling → List Char
  | literal c _ => [c]
  | simple c _ _ => ['\\', c]
  | hex _ _ escape _ => '\\' :: escape.digits

def ending : CharSpelling → Option Char
  | literal _ _ => none
  | simple _ _ _ => none
  | hex _ _ escape _ => escape.ending

def text (unit : CharSpelling) : List Char :=
  unit.core ++ unit.ending.toList

/-- A hexadecimal escape that one more digit would carry on. -/
def goesOn : CharSpelling → Bool
  | literal _ _ => false
  | simple _ _ _ => false
  | hex _ _ escape _ => escape.ending.isNone && decide (escape.digits.length < 6)

end CharSpelling

def spellingText (units : List CharSpelling) : List Char :=
  units.flatMap CharSpelling.text

def spelledChars (units : List CharSpelling) : List Char :=
  units.map CharSpelling.char

/-- No escape that could go on stands before a hexadecimal digit. -/
def Separate : List CharSpelling → Prop
  | [] => True
  | unit :: later =>
      (unit.goesOn = true → ∀ c ∈ (spellingText later).head?, isHexDigit c = false) ∧ Separate later

/-- A name of letters, digits, underscores and hyphens, character by character as it is written. -/
structure NameSpelling where
  units : List CharSpelling
  nonempty : units ≠ []
  separate : Separate units

namespace NameSpelling

def text (spelling : NameSpelling) : List Char := spellingText spelling.units

def name (spelling : NameSpelling) : String := String.ofList (spelledChars spelling.units)

end NameSpelling

def upToBlank : List CharSpelling → List CharSpelling
  | [] => []
  | unit :: later => unit :: if unit.ending.isSome then [] else upToBlank later

/-! Hexadecimal digits and the characters they stand for. -/

theorem hex_digit_plain {c : Char} (digit : isHexDigit c = true) : isNameChar c = true := by
  simp only [isHexDigit, isNameChar, isLetter, isDigit, Bool.or_eq_true, Bool.and_eq_true,
    decide_eq_true_eq, Char.le_def, UInt32.le_iff_toNat_le, Char.reduceVal,
    UInt32.reduceToNat] at digit ⊢
  omega

theorem name_char_escapable {c : Char} (plain : isNameChar c = true) : isEscapable c = true := by
  have avoids := avoids_of_test ['\r', '\n', '\x0c'] plain rfl
  simpa [isEscapable, and_assoc] using avoids

/-- Every character but NUL has a code point that an escape may give. -/
theorem code_point_char {c : Char} (present : c.toNat ≠ 0) : codePoint c.toNat = c := by
  have scalar : c.toNat < 0xd800 ∨ 0xdfff < c.toNat ∧ c.toNat < 0x110000 := c.valid
  have inRange : (c.toNat == 0 || (0xd800 ≤ c.toNat && c.toNat ≤ 0xdfff) ||
      decide (0x10ffff < c.toNat)) = false := by
    simp only [Bool.or_eq_false_iff, Bool.and_eq_false_iff, beq_eq_false_iff_ne,
      decide_eq_false_iff_not]
    omega
  rw [codePoint, inRange]
  exact Char.ofNat_toNat c

theorem code_point_plain {c : Char} (plain : isNameChar c = true) : codePoint c.toNat = c := by
  have visible := name_char_visible plain
  apply code_point_char
  omega

/-! The decoder on one character of a spelling. -/

theorem unescape_digits {digits : List Char} (seen rest : List Char)
    (hexadecimal : ∀ digit ∈ digits, isHexDigit digit = true)
    (few : seen.length + digits.length ≤ 6) :
    unescapeFrom (.digits seen) (digits ++ rest) =
      unescapeFrom (.digits (digits.reverse ++ seen)) rest := by
  induction digits generalizing seen with
  | nil => rfl
  | cons digit digits ih =>
      obtain ⟨first, later⟩ := List.forall_mem_cons.mp hexadecimal
      have room : seen.length < 6 := by
        rw [List.length_cons] at few
        omega
      have fewLater : (digit :: seen).length + digits.length ≤ 6 := by
        simp only [List.length_cons] at few ⊢
        omega
      have step : (EscapeState.digits seen).step digit = ([], .digits (digit :: seen)) := by
        simp [EscapeState.step, first, room]
      rw [List.cons_append, unescapeFrom, step, List.nil_append, ih _ later fewLater,
        List.reverse_cons, List.append_assoc, List.singleton_append]

theorem unescape_flush {seen rest : List Char}
    (ends : ∀ c ∈ rest.head?, endsEscape c = false ∧ (seen.length < 6 → isHexDigit c = false)) :
    unescapeFrom (.digits seen) rest =
      codePoint (hexNumber seen.reverse) :: unescapeFrom .plain rest := by
  cases rest with
  | nil => rfl
  | cons c rest =>
      obtain ⟨noBlank, noDigit⟩ := ends c rfl
      have closed : (isHexDigit c && decide (seen.length < 6)) = false := by
        by_cases room : seen.length < 6
        · rw [noDigit room, Bool.false_and]
        · rw [decide_eq_false room, Bool.and_false]
      have step : (EscapeState.digits seen).step c =
          (codePoint (hexNumber seen.reverse) :: (EscapeState.plain.step c).1,
            (EscapeState.plain.step c).2) := by
        simp [EscapeState.step, closed, noBlank, EscapeState.flush]
      rw [unescapeFrom, step, unescapeFrom, List.cons_append]

theorem unescape_opened {digits : List Char} (proper : EscapeDigits digits) (rest : List Char) :
    unescapeFrom .plain ('\\' :: (digits ++ rest)) = unescapeFrom (.digits digits.reverse) rest := by
  obtain ⟨nonempty, few, hexadecimal⟩ := proper
  cases digits with
  | nil => exact absurd rfl nonempty
  | cons digit digits =>
      obtain ⟨first, later⟩ := List.forall_mem_cons.mp hexadecimal
      have opened : unescapeFrom .plain ('\\' :: (digit :: digits ++ rest)) =
          unescapeFrom (.digits [digit]) (digits ++ rest) := by
        simp [unescapeFrom, EscapeState.step, first]
      have room : [digit].length + digits.length ≤ 6 := by
        simp only [List.length_cons, List.length_nil] at few ⊢
        omega
      rw [opened, unescape_digits [digit] rest later room, List.reverse_cons]

theorem hex_core_unescaped {c : Char} {rest : List Char} (plain : isNameChar c = true)
    (escape : HexEscape) (value : hexNumber escape.digits = c.toNat)
    (ends : ∀ next ∈ rest.head?, endsEscape next = false ∧
      (escape.digits.length < 6 → isHexDigit next = false)) :
    unescapeFrom .plain ('\\' :: (escape.digits ++ rest)) = c :: unescapeFrom .plain rest := by
  have seen : escape.digits.reverse.length = escape.digits.length := List.length_reverse
  rw [unescape_opened escape.proper, unescape_flush (by rw [seen]; exact ends),
    List.reverse_reverse, value, code_point_plain plain]

theorem name_units_start {name : List Char} (units : NameUnits name) :
    ∀ c ∈ name.head?, endsEscape c = false := by
  intro c member
  cases units with
  | none => cases member
  | plain plain _ =>
      obtain rfl := Option.some.inj member
      have avoids := avoids_of_test [' ', '\t', '\n'] plain rfl
      simpa [endsEscape, and_assoc] using avoids
  | escaped _ _ =>
      obtain rfl := Option.some.inj member
      rfl

theorem core_unescaped (unit : CharSpelling) {name : List Char} (units : NameUnits name)
    (apart : ∀ c ∈ name.head?, unit.ending = none ∧ (unit.goesOn = true → isHexDigit c = false)) :
    unescape (unit.core ++ name) = unit.char :: unescape name := by
  cases unit with
  | literal c plain =>
      have other := name_char_not_backslash plain
      simp [unescape, CharSpelling.core, CharSpelling.char, unescapeFrom, EscapeState.step, other]
  | simple c plain notHex =>
      simp [unescape, CharSpelling.core, CharSpelling.char, unescapeFrom, EscapeState.step, notHex]
  | hex c plain escape value =>
      apply hex_core_unescaped plain escape value
      intro next member
      obtain ⟨unended, noDigit⟩ := apart next member
      refine ⟨name_units_start units next member, ?_⟩
      intro few
      apply noDigit
      have none : escape.ending = none := unended
      simp [CharSpelling.goesOn, none, few]

theorem core_units (unit : CharSpelling) {name : List Char} (units : NameUnits name) :
    NameUnits (unit.core ++ name) := by
  cases unit with
  | literal c plain => exact .plain plain units
  | simple c plain notHex => exact .escaped (name_char_escapable plain) units
  | hex c plain escape value =>
      obtain ⟨digits, ending, ⟨nonempty, few, hexadecimal⟩, blank⟩ := escape
      cases digits with
      | nil => exact absurd rfl nonempty
      | cons digit digits =>
          obtain ⟨first, later⟩ := List.forall_mem_cons.mp hexadecimal
          refine .escaped (name_char_escapable (hex_digit_plain first)) ?_
          show NameUnits (digits ++ name)
          clear few nonempty value hexadecimal
          induction digits with
          | nil => exact units
          | cons digit digits ih =>
              obtain ⟨here, others⟩ := List.forall_mem_cons.mp later
              exact .plain (hex_digit_plain here) (ih others)

theorem core_nonempty (unit : CharSpelling) : unit.core ≠ [] := by
  cases unit <;> exact List.cons_ne_nil _ _

/-! The tokens of a spelling. -/

structure StartsName (lexeme text : List Char) : Prop where
  units : NameUnits lexeme
  names : ∃ (behind : List Char) (later : List Name), text = lexeme ++ behind ∧
    nameLexeme behind = [] ∧ Spelled (later.map Name.token) behind

theorem names_of_start {lexeme text : List Char} (starts : StartsName lexeme text) :
    ∃ names : List Name, Spelled (names.map Name.token) text := by
  obtain ⟨units, behind, later, rfl, ended, spelled⟩ := starts
  by_cases empty : lexeme = []
  · rw [empty]
    exact ⟨later, spelled⟩
  · exact ⟨⟨lexeme, units, empty⟩ :: later, .token ended spelled⟩

theorem ending_gap {unit : CharSpelling} {blank : Char} (ended : unit.ending = some blank) :
    isTokenGap blank = true := by
  cases unit with
  | literal | simple => cases ended
  | hex c plain escape value =>
      rcases escape.blank blank ended with rfl | rfl <;> rfl

/-- A spelling is cut at its first blank, and what stands before it is decoded whole. -/
theorem spelling_starts {units : List CharSpelling} (separate : Separate units) :
    ∃ lexeme, StartsName lexeme (spellingText units) ∧ (units ≠ [] → lexeme ≠ []) ∧
      unescape lexeme = spelledChars (upToBlank units) := by
  induction units with
  | nil => exact ⟨[], ⟨.none, [], [], rfl, rfl, .done⟩, absurd rfl, rfl⟩
  | cons unit later ih =>
      obtain ⟨apart, separateLater⟩ := separate
      obtain ⟨lexeme, starts, nonempty, decoded⟩ := ih separateLater
      have text : spellingText (unit :: later) =
          unit.core ++ (unit.ending.toList ++ spellingText later) := by
        simp [spellingText, CharSpelling.text]
      rw [text]
      cases ended : unit.ending with
      | some blank =>
          have gap := ending_gap ended
          obtain ⟨names, spelled⟩ := names_of_start starts
          have alone := core_unescaped unit .none (by simp)
          have units := core_units unit .none
          rw [List.append_nil] at alone units
          refine ⟨unit.core, ⟨units, _, names, rfl, ?_, .gap gap spelled⟩,
            fun _ => core_nonempty unit, ?_⟩
          · exact ends_at_gap ⟨.name, []⟩ _ gap
          · rw [alone]
            simp [upToBlank, ended, spelledChars]
            rfl
      | none =>
          obtain ⟨units, behind, names, split, stopped, spelled⟩ := starts
          have follows : ∀ c ∈ lexeme.head?, unit.ending = none ∧
              (unit.goesOn = true → isHexDigit c = false) := by
            intro c member
            refine ⟨ended, fun goesOn => apart goesOn c ?_⟩
            rw [split, List.head?_append, Option.mem_def.mp member]
            rfl
          refine ⟨unit.core ++ lexeme, ⟨core_units unit units, behind, names, ?_, stopped, spelled⟩,
            ?_, ?_⟩
          · rw [split, Option.toList_none, List.nil_append, List.append_assoc]
          · intro _ vanished
            exact core_nonempty unit (List.append_eq_nil_iff.mp vanished).1
          · rw [core_unescaped unit units follows, decoded]
            simp [upToBlank, ended, spelledChars]

theorem read_element_names (names : List Name) :
    ReaderState.readTokens ⟨.afterComponent, 0⟩ (names.map Name.token) = some [] := by
  induction names with
  | nil => rfl
  | cons name names ih =>
      rw [List.map_cons, read_step _ rfl]
      exact ih

/-- Behind a class or id name, names add nothing. -/
theorem read_name_first (kind : SelectorKind) {lexeme text : List Char}
    (starts : StartsName lexeme text) (nonempty : lexeme ≠ []) :
    readSelectors (kind.sigil.toList ++ text) = .ok [⟨kind, String.ofList (unescape lexeme)⟩] := by
  obtain ⟨units, behind, later, rfl, ended, spelled⟩ := starts
  let name : Name := ⟨lexeme, units, nonempty⟩
  have sigil : kind.sigil.toList = (sigilToken kind).lexeme := by cases kind <;> rfl
  have ends : (sigilToken kind).EndsAt (lexeme ++ behind) := by cases kind <;> trivial
  have whole : Spelled (sigilToken kind :: name.token :: later.map Name.token)
      ((sigilToken kind).lexeme ++ (lexeme ++ behind)) :=
    .token ends (.token ended spelled)
  have legal : ∀ token ∈ sigilToken kind :: name.token :: later.map Name.token, token.Legal := by
    intro token member
    rcases List.mem_cons.mp member with rfl | member
    · exact .sigil kind
    · rcases List.mem_cons.mp member with rfl | member
      · exact .name name
      · obtain ⟨other, _, rfl⟩ := List.mem_map.mp member
        exact .name other
  have first : ReaderState.step ⟨.component, 0⟩ (sigilToken kind) =
      some ⟨⟨.name (.reference kind), 0⟩, none⟩ := by cases kind <;> rfl
  have read : ReaderState.readTokens ⟨.component, 0⟩
      (sigilToken kind :: name.token :: later.map Name.token) =
        some [⟨kind, String.ofList (unescape lexeme)⟩] := by
    rw [read_step _ first]
    apply read_tokens_cons_iff.mpr
    exact ⟨_, [], rfl, read_element_names later, rfl⟩
  rw [sigil]
  exact read_spelled whole Position.start Position.start legal read

/-- Nothing of a spelling is cut off where a blank ends its last character at most. -/
theorem up_to_blank_whole_iff (units : List CharSpelling) :
    spelledChars (upToBlank units) = spelledChars units ↔
      ∀ unit ∈ units.dropLast, unit.ending = none := by
  induction units with
  | nil => simp [upToBlank]
  | cons unit later ih =>
      cases ended : unit.ending with
      | some blank =>
          have cut : upToBlank (unit :: later) = [unit] := by
            simp [upToBlank, ended]
          rw [cut]
          cases later with
          | nil => simp [spelledChars]
          | cons next later =>
              constructor
              · intro same
                simp [spelledChars] at same
              · intro unended
                have first : unit.ending = none := unended unit (by simp)
                rw [ended] at first
                cases first
      | none =>
          have kept : upToBlank (unit :: later) = unit :: upToBlank later := by
            simp [upToBlank, ended]
          have cons : spelledChars (unit :: upToBlank later) = spelledChars (unit :: later) ↔
              spelledChars (upToBlank later) = spelledChars later := by
            simp [spelledChars]
          rw [kept, cons, ih]
          cases later with
          | nil => simp
          | cons next later => simp [List.dropLast_cons_cons, ended]

namespace NameSpelling

/-- The name that is written before the first blank. -/
def nameBeforeBlank (spelling : NameSpelling) : String :=
  String.ofList (spelledChars (upToBlank spelling.units))

end NameSpelling

/-- A class or id whose name is spelled with escapes is read as one reference, whose name ends
where the first blank ends an escape. It is the name that the spelling stands for exactly if no
escape but the last is ended by a blank. -/
theorem spelled_name_read_up_to_blank (kind : SelectorKind) (spelling : NameSpelling) :
    readSelectors (kind.sigil.toList ++ spelling.text) = .ok [⟨kind, spelling.nameBeforeBlank⟩] ∧
      (readSelectors (kind.sigil.toList ++ spelling.text) = .ok [⟨kind, spelling.name⟩] ↔
        ∀ unit ∈ spelling.units.dropLast, unit.ending = none) := by
  obtain ⟨lexeme, starts, nonempty, decoded⟩ := spelling_starts spelling.separate
  have read := read_name_first kind starts (nonempty spelling.nonempty)
  rw [decoded] at read
  refine ⟨read, ?_⟩
  rw [← up_to_blank_whole_iff, show kind.sigil.toList ++ spelling.text =
    kind.sigil.toList ++ spellingText spelling.units from rfl, read]
  simp [NameSpelling.name, String.ofList_inj]

/-- The blank that ends the escape of a digit, as it must before the letter, ends the name too. -/
theorem spelled_name_cut_at_blank :
    ∃ spelling : NameSpelling, spelling.text = "\\31 a".toList ∧ spelling.name = "1a" ∧
      readSelectors ('.' :: spelling.text) = .ok [⟨.classSelector, "1"⟩] := by
  have digits : EscapeDigits ['3', '1'] := by
    refine ⟨by simp, by simp, ?_⟩
    exact List.forall_mem_cons.mpr ⟨rfl, List.forall_mem_singleton.mpr rfl⟩
  let escape : HexEscape := ⟨['3', '1'], some ' ', digits, by simp⟩
  let spelling : NameSpelling :=
    ⟨[.hex '1' rfl escape rfl, .literal 'a' rfl], by simp,
      by simp [Separate, CharSpelling.goesOn, escape]⟩
  exact ⟨spelling, rfl, rfl, rfl⟩

end SelectorAudit.Stylesheet
