import SelectorAudit.Proofs.Stylesheet.RenderedSheet
import SelectorAudit.Proofs.Text.Words

/-!
# Sheets of names

The plainest style sheets declare one class or id in each line. Their names may be any run of
letters, digits, underscores and hyphens, whatever it starts with; such a sheet gives back exactly
what was declared, each name at the start of its own line.
-/

namespace SelectorAudit.Stylesheet

set_option autoImplicit false

open Text

/-- Letters, digits, underscores and hyphens, at least one and in any order. -/
structure PlainName where
  text : List Char
  nonempty : text ≠ []
  plain : ∀ c ∈ text, isNameChar c = true

namespace PlainName

def word (name : PlainName) : String := String.ofList name.text

theorem unescaped (name : PlainName) : '\\' ∉ name.text := by
  intro member
  exact absurd (name.plain _ member) (by decide)

theorem identified (name : PlainName) : isIdentifier name.text = true :=
  identifier_of_name name.plain name.nonempty

theorem solid (name : PlainName) : Solid name.text :=
  ⟨name.nonempty, fun c member => name_char_not_blank (name.plain c member)⟩

end PlainName

theorem name_units_of_plain {name : List Char} (plain : ∀ c ∈ name, isNameChar c = true) :
    NameUnits name := by
  induction name with
  | nil => exact .none
  | cons c rest ih =>
      obtain ⟨here, others⟩ := List.forall_mem_cons.mp plain
      exact .plain here (ih others)

/-- A class or an id with a plain name. -/
structure Declaration where
  kind : SelectorKind
  name : PlainName

namespace Declaration

/-- The selector as it is written. -/
def text (declaration : Declaration) : List Char :=
  declaration.kind.sigil.toList ++ declaration.name.text

def reference (declaration : Declaration) : SelectorRef :=
  ⟨declaration.kind, declaration.name.word⟩

/-- What the declaration stands for at the start of a line. -/
def selector (file : String) (declaration : Declaration) (line : Nat) : Selector :=
  ⟨declaration.kind, declaration.name.word, file, line, 1⟩

theorem text_eq (declaration : Declaration) :
    declaration.text = (sigilToken declaration.kind).lexeme ++ declaration.name.text := by
  obtain ⟨kind, name⟩ := declaration
  cases kind <;> simp [text, SelectorKind.sigil, sigilToken]

theorem text_cons (declaration : Declaration) :
    declaration.text = '.' :: declaration.name.text ∨
      declaration.text = '#' :: declaration.name.text := by
  rw [text_eq]
  cases declaration.kind with
  | classSelector => exact .inl rfl
  | idSelector => exact .inr rfl

theorem mem_text {declaration : Declaration} {c : Char} (member : c ∈ declaration.text) :
    c = '.' ∨ c = '#' ∨ isNameChar c = true := by
  rcases declaration.text_cons with shape | shape <;> rw [shape] at member <;>
    rcases List.mem_cons.mp member with sigil | inName
  · exact .inl sigil
  · exact .inr (.inr (declaration.name.plain c inName))
  · exact .inr (.inl sigil)
  · exact .inr (.inr (declaration.name.plain c inName))

theorem unescaped (declaration : Declaration) : '\\' ∉ declaration.text := by
  intro member
  exact absurd (mem_text member) (by decide)

theorem unbroken (declaration : Declaration) : '\n' ∉ declaration.text := by
  intro member
  exact absurd (mem_text member) (by decide)

theorem tight (declaration : Declaration) : declaration.text.takeWhile isBlank = [] := by
  rcases declaration.text_cons with shape | shape <;> rw [shape] <;> rfl

theorem read_text (declaration : Declaration) :
    readSelectors declaration.text = .ok [declaration.reference] := by
  rw [text_eq]
  obtain ⟨kind, name⟩ := declaration
  let written : Name := ⟨name.text, name_units_of_plain name.plain, name.nonempty⟩
  apply read_selectors_iff.mpr
  refine ⟨.single (.single (.reference kind written)), ?_, ?_⟩
  · have named : Spelled [written.token] (name.text ++ []) := .token rfl .done
    have ends : (sigilToken kind).EndsAt name.text := by cases kind <;> trivial
    rw [List.append_nil] at named
    exact .token ends named
  · show [SelectorRef.mk kind (String.ofList (unescape name.text))] = _
    rw [unescape_of_clean name.unescaped]
    rfl

theorem place_behind_rule (declaration : Declaration) {before : List Char} {line column : Nat}
    (place : placeBehind before = ⟨line, column⟩) :
    placeBehind (before ++ (declaration.text ++ emptyBlock)) = ⟨line + 1, 1⟩ := by
  have counted : before.count '\n' + 1 = line := congrArg Position.line place
  have inside : declaration.text.count '\n' = 0 := List.count_eq_zero.mpr declaration.unbroken
  simp [placeBehind, lastLine, emptyBlock, inside, ← counted]

end Declaration

/-- The style sheet of some declarations. -/
def nameSheet (declarations : List Declaration) : List Char :=
  renderedSheet (declarations.map Declaration.text)

def selectorsByLine (file : String) (declarations : List Declaration) (line : Nat) :
    List Selector :=
  (declarations.zipIdx line).map fun entry => entry.1.selector file entry.2

theorem declared_by_line (file : String) (declarations : List Declaration) {before : List Char}
    {line : Nat} (place : placeBehind before = ⟨line, 1⟩) :
    declaredSelectors file before
        (declarations.map fun declaration => (declaration.text, [declaration.reference])) =
      selectorsByLine file declarations line := by
  induction declarations generalizing before line with
  | nil => rfl
  | cons declaration later ih =>
      rw [List.map_cons, declaredSelectors, declaration.tight, List.append_nil, place,
        ih (declaration.place_behind_rule place)]
      rfl

/-- A sheet of names declares them in order, each at the start of its line, and nothing is
reported. -/
theorem extract_name_sheet (file : String) {declarations : List Declaration}
    (present : declarations ≠ []) :
    extractSelectors (nameSheet declarations) file =
      ⟨.ok (selectorsByLine file declarations 1), [], []⟩ := by
  let preludes := declarations.map fun declaration : Declaration =>
    (declaration.text, [declaration.reference])
  have texts : preludes.map Prod.fst = declarations.map Declaration.text := by
    simp [preludes]
  have clean : ∀ prelude ∈ preludes, '\\' ∉ prelude.1 :=
    List.forall_mem_map.mpr fun declaration _ => declaration.unescaped
  have accepted : ∀ prelude ∈ preludes, readSelectors prelude.1 = .ok prelude.2 :=
    List.forall_mem_map.mpr fun declaration _ => declaration.read_text
  obtain ⟨rules, scanned, findings⟩ :=
    scan_rendered_sheet (usesPreprocessor file) file .none [] clean accepted
  rw [texts] at scanned
  have found : scanRules (usesPreprocessor file) (nameSheet declarations) = ⟨rules, none⟩ := scanned
  obtain ⟨solid, sheet⟩ : isAllBlank (nameSheet declarations) = false ∧
      looksLikeStylesheet (nameSheet declarations) = true := by
    cases declarations with
    | nil => exact absurd rfl present
    | cons first later => exact rendered_sheet_accepted _ _
  rw [declared_by_line file declarations rfl] at findings
  rw [extractSelectors, solid, sheet, found]
  simp [findings, Findings.only]

end SelectorAudit.Stylesheet
