import SelectorAudit.Json.Reader

/-!
# Nested values

A list or an object takes a level of the stack, and so a text uses the stack up only if it opens
more lists and objects than there are levels to spare. Lists in lists do so at any size of the
stack.
-/

namespace SelectorAudit.Json

set_option autoImplicit false

def opensLevel (c : Char) : Bool := c == '[' || c == '\x7b'

/-- How many characters of a text may open a level. Those in strings count as well. -/
def openings (text : List Char) : Nat := text.countP opensLevel

theorem openings_of_suffix {first second : List Char} (suffix : first <:+ second) :
    openings first ≤ openings second :=
  suffix.sublist.countP_le

section

variable {α : Type}

/-- A reading goes on behind a part of the text and takes no level of the stack. -/
structure Flat (text : List Char) (reading : Reading α) : Prop where
  onward : ∀ value behind, reading = .ok (value, behind) → behind.rest <:+ text
  spare : ∀ overflow, reading ≠ .error (.exhausted overflow)

/-- A reading goes on behind a part of the text, and where it uses the stack up the text opens
almost as many levels as there is room for. -/
structure Frugal (room : Nat) (text : List Char) (reading : Reading α) : Prop where
  onward : ∀ value behind, reading = .ok (value, behind) → behind.rest <:+ text
  deep : ∀ overflow, reading = .error (.exhausted overflow) → room < openings text + reportDepth

variable {room : Nat} {text : List Char} {reading : Reading α}

theorem flat_ok {value : α} {behind : Place} (suffix : behind.rest <:+ text) :
    Flat text (.ok (value, behind)) := by
  constructor
  · rintro _ _ ⟨⟩
    exact suffix
  · rintro _ ⟨⟩

theorem flat_fault (expected : Expected) (offset : Nat) :
    Flat text (.error (.syntaxAt expected offset) : Reading α) := by
  constructor
  · rintro _ _ ⟨⟩
  · rintro _ ⟨⟩

theorem Flat.longer (flat : Flat text reading) {longer : List Char} (suffix : text <:+ longer) :
    Flat longer reading :=
  ⟨fun value behind given => (flat.onward value behind given).trans suffix, flat.spare⟩

theorem Flat.frugal (flat : Flat text reading) : Frugal room text reading :=
  ⟨flat.onward, fun overflow exhausted => absurd exhausted (flat.spare overflow)⟩

theorem raised_exhausted {fault : Fault} {overflow : Overflow}
    (spare : fault ≠ .exhausted overflow) (exhausted : fault.raised room = .exhausted overflow) :
    room < reportDepth := by
  unfold Fault.raised at exhausted
  split at exhausted
  · cases exhausted
  · split at exhausted
    · decide
    · decide
    · decide
    · cases exhausted
  · exact absurd exhausted spare

theorem Flat.reported (flat : Flat text reading) :
    Frugal room text (reading.mapError (Fault.raised room)) := by
  cases reading with
  | ok read => exact ⟨flat.onward, by rintro _ ⟨⟩⟩
  | error fault =>
      refine ⟨by rintro _ _ ⟨⟩, fun overflow exhausted => Nat.lt_add_left _ ?_⟩
      refine raised_exhausted (fun same => ?_) (Except.error.inj exhausted)
      exact flat.spare overflow (congrArg _ same)

theorem frugal_fail (place : Place) (expected : Expected) :
    Frugal room text (place.fail room expected : Reading α) :=
  (flat_fault expected place.offset).reported

theorem Frugal.longer (frugal : Frugal room text reading) {longer : List Char}
    (suffix : text <:+ longer) : Frugal room longer reading :=
  ⟨fun value behind given => (frugal.onward value behind given).trans suffix,
    fun overflow exhausted => Nat.lt_of_lt_of_le (frugal.deep overflow exhausted)
      (Nat.add_le_add_right (openings_of_suffix suffix) _)⟩

theorem frugal_roomless {fault : Fault} (small : room < reportDepth) :
    Frugal room text (.error fault : Reading α) :=
  ⟨by rintro _ _ ⟨⟩, fun _ _ => Nat.lt_add_left _ small⟩

theorem Frugal.failed {β : Type} {fault : Fault} (frugal : Frugal room text reading)
    (failed : reading = .error fault) : Frugal room text (.error fault : Reading β) := by
  refine ⟨by rintro _ _ ⟨⟩, ?_⟩
  rintro overflow ⟨⟩
  exact frugal.deep overflow failed

theorem Frugal.mapped {β : Type} (frugal : Frugal room text reading) (use : α → β) :
    Frugal room text (reading.map fun read => (use read.1, read.2)) := by
  cases reading with
  | error fault => exact frugal.failed rfl
  | ok read =>
      obtain ⟨value, behind⟩ := read
      exact (flat_ok (frugal.onward value behind rfl)).frugal

theorem Frugal.entered {c : Char} (frugal : Frugal room text reading)
    (opens : opensLevel c = true) : Frugal (room + 1) (c :: text) reading := by
  refine ⟨(frugal.longer (List.suffix_cons c text)).onward, fun overflow exhausted => ?_⟩
  have deep := frugal.deep overflow exhausted
  rw [openings, List.countP_cons_of_pos opens, ← openings]
  omega

end

/-! The readers. -/

theorem drop_suffix (place : Place) (count : Nat) : (place.drop count).rest <:+ place.rest :=
  List.drop_suffix count place.rest

theorem skip_gap_suffix (place : Place) : place.skipGap.rest <:+ place.rest :=
  drop_suffix place _

theorem behind_mark_suffix (place : Place) : (place.drop 1).skipGap.rest <:+ place.rest :=
  (skip_gap_suffix _).trans (drop_suffix place 1)

theorem unicode_escape_spare (place : Place) (overflow : Overflow) :
    unicodeEscape place ≠ .error (.exhausted overflow) := by
  unfold unicodeEscape
  dsimp only
  repeat' split
  all_goals rintro ⟨⟩

theorem read_string_flat (start : Nat) (read : List Char) (offset skip : Nat) (text : List Char) :
    Flat text (readString start read offset skip text) := by
  induction text generalizing read offset skip with
  | nil => exact flat_fault _ _
  | cons c rest ih =>
      have onward (read : List Char) (offset skip : Nat) :
          Flat (c :: rest) (readString start read offset skip rest) :=
        (ih read offset skip).longer (List.suffix_cons c rest)
      unfold readString
      split
      · exact onward _ _ _
      · split
        · exact flat_ok (List.suffix_cons c rest)
        · split
          · split
            · exact flat_fault _ _
            · split
              · split
                · rename_i fault failed
                  refine ⟨by rintro _ _ ⟨⟩, ?_⟩
                  rintro overflow ⟨⟩
                  exact unicode_escape_spare _ _ failed
                · exact onward _ _ _
              · split
                · exact onward _ _ _
                · exact flat_fault _ _
          · split
            · exact flat_fault _ _
            · exact onward _ _ _

theorem read_number_flat (place : Place) : Flat place.rest (readNumber place) := by
  unfold readNumber
  extract_lets _ unsigned whole behindWhole _ behindFraction exponent behind
  have unsignedOn : unsigned.rest <:+ place.rest := by
    simp only [unsigned]
    split
    · exact drop_suffix _ _
    · exact List.suffix_rfl
  have fractionOn : behindFraction.rest <:+ place.rest := by
    refine .trans ?_ ((drop_suffix unsigned whole.length).trans unsignedOn)
    simp only [behindFraction]
    split
    · exact List.suffix_rfl
    · exact drop_suffix _ _
  have behindOn : behind.rest <:+ place.rest := by
    refine .trans ?_ fractionOn
    simp only [behind]
    cases exponent with
    | none => exact List.suffix_rfl
    | some found => exact drop_suffix _ _
  split
  · exact flat_fault _ _
  · split
    · split
      · exact ⟨by rintro _ _ ⟨⟩, by rintro _ ⟨⟩⟩
      · exact flat_ok behindOn
    · exact flat_ok behindOn

theorem read_scalar_frugal (room : Nat) (place : Place) :
    Frugal room place.rest (readScalar room place) := by
  unfold readScalar
  split
  · split
    · exact ⟨by rintro _ _ ⟨⟩, fun _ _ => Nat.lt_add_left _ (by decide)⟩
    · exact (flat_ok (drop_suffix place _)).frugal
  · exact (read_number_flat place).frugal

theorem read_text_frugal (room : Nat) (place : Place) (rest : List Char) :
    Frugal room rest (readText room place rest) :=
  (read_string_flat _ _ _ _ _).reported

section

variable {fuel : Nat}

/-- What stands behind an opening bracket. -/
theorem inside_suffix {place : Place} {c : Char} {rest : List Char}
    (spelled : place.rest = c :: rest) : (place.drop 1).skipGap.rest <:+ rest := by
  refine (skip_gap_suffix _).trans ?_
  rw [Place.drop, spelled]
  exact List.suffix_rfl

theorem read_value_frugal
    (items : ∀ room read place, Frugal room place.rest (readItems fuel room read place))
    (members : ∀ room read place, Frugal room place.rest (readMembers fuel room read place))
    (room : Nat) (place : Place) : Frugal room place.rest (readValue (fuel + 1) room place) := by
  unfold readValue
  split
  · rename_i rest spelled
    rw [spelled]
    exact ((read_text_frugal room place rest).mapped _).longer (List.suffix_cons _ _)
  · rename_i rest spelled
    have inside := inside_suffix spelled
    rw [spelled]
    split
    · exact frugal_roomless (by decide)
    · dsimp only
      split
      · exact (flat_ok ((drop_suffix _ _).trans inside)).frugal.entered (by decide)
      · exact ((members _ _ _).longer inside).entered (by decide)
  · rename_i rest spelled
    have inside := inside_suffix spelled
    rw [spelled]
    split
    · exact frugal_roomless (by decide)
    · dsimp only
      split
      · exact (flat_ok ((drop_suffix _ _).trans inside)).frugal.entered (by decide)
      · exact ((items _ _ _).longer inside).entered (by decide)
  · exact read_scalar_frugal room place

theorem read_items_frugal
    (values : ∀ room place, Frugal room place.rest (readValue fuel room place))
    (items : ∀ room read place, Frugal room place.rest (readItems fuel room read place))
    (room : Nat) (read : List Value) (place : Place) :
    Frugal room place.rest (readItems (fuel + 1) room read place) := by
  have value := values room place
  unfold readItems
  split
  · exact value.failed ‹_›
  · rename_i item behind given
    have next : behind.skipGap.rest <:+ place.rest :=
      (skip_gap_suffix behind).trans (value.onward item behind given)
    dsimp only
    split
    · exact (flat_ok ((drop_suffix _ _).trans next)).frugal
    · exact (items _ _ _).longer ((behind_mark_suffix _).trans next)
    · exact frugal_fail _ _

theorem read_members_frugal
    (values : ∀ room place, Frugal room place.rest (readValue fuel room place))
    (members : ∀ room read place, Frugal room place.rest (readMembers fuel room read place))
    (room : Nat) (read : List (String × Value)) (place : Place) :
    Frugal room place.rest (readMembers (fuel + 1) room read place) := by
  unfold readMembers
  split
  · rename_i rest spelled
    have key := (read_text_frugal room place rest).longer (List.suffix_cons '\x22' rest)
    rw [← spelled] at key
    split
    · exact key.failed ‹_›
    · rename_i name behindKey given
      have colon : behindKey.skipGap.rest <:+ place.rest :=
        (skip_gap_suffix behindKey).trans (key.onward name behindKey given)
      dsimp only
      split
      · have value := (values room (behindKey.skipGap.drop 1).skipGap).longer
          ((behind_mark_suffix _).trans colon)
        split
        · exact value.failed ‹_›
        · rename_i item behind found
          have next : behind.skipGap.rest <:+ place.rest :=
            (skip_gap_suffix behind).trans (value.onward item behind found)
          split
          · exact (flat_ok ((drop_suffix _ _).trans next)).frugal
          · exact (members _ _ _).longer ((behind_mark_suffix _).trans next)
          · exact frugal_fail _ _
      · exact frugal_fail _ _
  · exact frugal_fail _ _

end

theorem readers_frugal (fuel : Nat) :
    (∀ room place, Frugal room place.rest (readValue fuel room place)) ∧
    (∀ room read place, Frugal room place.rest (readItems fuel room read place)) ∧
    (∀ room read place, Frugal room place.rest (readMembers fuel room read place)) := by
  induction fuel with
  | zero =>
      exact ⟨fun _ _ => (flat_fault _ _).frugal, fun _ _ _ => (flat_fault _ _).frugal,
        fun _ _ _ => (flat_fault _ _).frugal⟩
  | succ fuel ih =>
      obtain ⟨values, items, members⟩ := ih
      refine ⟨fun room place => ?_, fun room read place => ?_, fun room read place => ?_⟩
      · exact read_value_frugal items members room place
      · exact read_items_frugal values items room read place
      · exact read_members_frugal values members room read place

/-- A text that uses the stack up opens more levels than there are to spare. -/
theorem exhausted_opens {spare : Nat} {text : List Char} {overflow : Overflow}
    (exhausted : read spare text = .error (.exhausted overflow)) : spare < openings text := by
  unfold read at exhausted
  split at exhausted
  · cases exhausted
  · have frugal := (readers_frugal (2 * text.length + 2)).1 (spare + reportDepth)
      (Place.skipGap ⟨0, text⟩)
    split at exhausted
    · rename_i fault failed
      cases exhausted
      have deep := frugal.deep overflow failed
      have fewer := openings_of_suffix (skip_gap_suffix ⟨0, text⟩)
      dsimp only at fewer
      omega
    · dsimp only at exhausted
      split at exhausted <;> cases exhausted

/-! Lists in lists. -/

theorem nested_value_exhausts {fuel room depth : Nat} (enough : 2 * room < fuel)
    (deep : room < depth) (offset : Nat) :
    readValue fuel room ⟨offset, List.replicate depth '['⟩ = .error (.exhausted .list) := by
  induction room generalizing fuel depth offset with
  | zero =>
      obtain ⟨fuel, rfl⟩ : ∃ less, fuel = less + 1 := ⟨fuel - 1, by omega⟩
      obtain ⟨depth, rfl⟩ : ∃ less, depth = less + 1 := ⟨depth - 1, by omega⟩
      rfl
  | succ room ih =>
      -- A level takes two units of fuel: one for the list and one for its first item.
      obtain ⟨fuel, rfl⟩ : ∃ less, fuel = less + 1 + 1 := ⟨fuel - 2, by omega⟩
      obtain ⟨depth, rfl⟩ : ∃ less, depth = less + 1 + 1 := ⟨depth - 2, by omega⟩
      have inner : readValue fuel room ⟨offset + 1, List.replicate (depth + 1) '['⟩ =
          .error (.exhausted .list) := ih (by omega) (by omega) (offset + 1)
      show readItems (fuel + 1) room [] ⟨offset + 1, List.replicate (depth + 1) '['⟩ = _
      unfold readItems
      rw [inner]

theorem nested_lists_exhaust {spare depth : Nat} (deep : spare + reportDepth < depth) :
    read spare (List.replicate depth '[') = .error (.exhausted .list) := by
  obtain ⟨depth, rfl⟩ : ∃ less, depth = less + 1 := ⟨depth - 1, by omega⟩
  have start : Place.skipGap ⟨0, List.replicate (depth + 1) '['⟩ =
      ⟨0, List.replicate (depth + 1) '['⟩ := rfl
  unfold read
  rw [if_neg (by simp [List.replicate_succ]), List.length_replicate, start,
    nested_value_exhausts (by omega) deep]

end SelectorAudit.Json
