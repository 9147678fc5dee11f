import SelectorAudit.Markup.Program
import SelectorAudit.Proofs.Markup.Grammar.Skipping

/-!
# Where a tree comes from

The decorators and the properties in a syntax tree are written in the text that was parsed. To say
so of every rule of the grammar, a parser is said to read a text when it stays inside of it and gives
only values that stem from it. Each way to combine parsers keeps this, so it is found for a rule by
instance resolution along the rule's own structure.
-/

namespace SelectorAudit.Markup.Grammar

set_option autoImplicit false

open Text

/-! What a tree says about the text. -/

/-- A key stands in a text with its colon, bare or in quotation marks. -/
def KeyWritten (source : List Char) (key : String) : Prop :=
  ∃ (quote : Option Char) (gap : List Char), (∀ mark ∈ quote, isQuote mark = true) ∧ Gap gap ∧
    quote.toList ++ key.toList ++ quote.toList ++ gap ++ [':'] <:+: source

/-- A component decorator stands in a text up to its parenthesis, and behind that the keys of the
object that it is called with. -/
def DecoratorWritten (source : List Char) (object : Node) : Prop :=
  ∃ beforeName beforeArguments behind, Gap beforeName ∧ Approach beforeArguments ∧
    '@' :: (beforeName ++ decoratorName.toList ++ beforeArguments ++ '(' :: behind) <:+ source ∧
    ∀ entry ∈ object.entries, KeyWritten behind entry.1

/-- All properties and component decorators of a tree are written in a text. -/
inductive Written (source : List Char) : Node → Prop where
  | node {n : Node}
      (pair : n.kind = .pair → ∀ key, n.pairKey? = some key → KeyWritten source key)
      (decorator : n.kind = .decorator →
        ∀ object, n.componentObject? = some object → DecoratorWritten source object)
      (below : ∀ child ∈ n.children, Written source child) : Written source n

namespace Written

variable {source : List Char} {n : Node}

theorem pair_key (written : Written source n) (kind : n.kind = .pair) {key : String}
    (found : n.pairKey? = some key) : KeyWritten source key := by
  cases written with
  | node pair decorator below => exact pair kind key found

theorem decorator_object (written : Written source n) (kind : n.kind = .decorator) {object : Node}
    (found : n.componentObject? = some object) : DecoratorWritten source object := by
  cases written with
  | node pair decorator below => exact decorator kind object found

theorem child (written : Written source n) {child : Node} (member : child ∈ n.children) :
    Written source child := by
  cases written with
  | node pair decorator below => exact below child member

theorem in_role (written : Written source n) (role : Role) : Written source (n.inRole role) :=
  .node (fun kind _ found => written.pair_key kind found)
    (fun kind _ found => written.decorator_object kind found)
    (fun _ member => written.child member)

theorem entry_key (written : Written source n) {entry : String × Node}
    (member : entry ∈ n.entries) : KeyWritten source entry.1 := by
  obtain ⟨property, among, same⟩ := List.mem_filterMap.mp member
  split at same
  · rename_i kind found _
    cases same
    exact (written.child (Node.mem_children_of_mem_significant among)).pair_key kind found
  · cases same

end Written

/-! Values that stem from a text. -/

/-- A place in a text, reached past comments only. -/
structure Placed (source : List Char) (cursor : Cursor) : Prop where
  suffix : cursor.rest <:+ source
  comments : ∀ comment ∈ cursor.comments, IsComment comment

theorem Placed.skip {source : List Char} {cursor : Cursor} (placed : Placed source cursor) :
    Placed source cursor.skip :=
  ⟨(skip_suffix cursor).trans placed.suffix, skip_comments placed.comments⟩

theorem Placed.move {source : List Char} {cursor : Cursor} (placed : Placed source cursor)
    (count : Nat) : Placed source (cursor.move count) :=
  ⟨(List.drop_suffix count cursor.rest).trans placed.suffix, placed.comments⟩

/-- A type of values that parsers give, with what it means for one to stem from a text. -/
class Origin (α : Type) where
  From : List Char → α → Prop

class Stems {α : Type} [Origin α] (source : List Char) (value : α) : Prop where
  stems : Origin.From source value

instance : Origin Unit := ⟨fun _ _ => True⟩

instance : Origin Bool := ⟨fun _ _ => True⟩

instance : Origin Char := ⟨fun _ _ => True⟩

instance : Origin String := ⟨fun _ _ => True⟩

instance : Origin Cursor := ⟨Placed⟩

instance : Origin Node := ⟨Written⟩

section

variable {α β : Type} [Origin α] [Origin β] {source : List Char}

instance : Origin (List α) := ⟨fun source values => ∀ value ∈ values, Origin.From source value⟩

instance : Origin (Option α) := ⟨fun source value? => ∀ value ∈ value?, Origin.From source value⟩

instance : Origin (α × β) :=
  ⟨fun source pair => Origin.From source pair.1 ∧ Origin.From source pair.2⟩

instance (value : {value : α // Stems source value}) : Stems source value.val := value.property

instance (value : Unit) : Stems source value := ⟨trivial⟩

instance (value : String) : Stems source value := ⟨trivial⟩

instance (n : Node) (role : Role) [found : Stems source n] : Stems source (n.inRole role) :=
  ⟨Written.in_role found.stems role⟩

instance : Stems source (none : Option α) := ⟨nofun⟩

instance (value : α) [found : Stems source value] : Stems source (some value) :=
  ⟨fun _ same => Option.some.inj same ▸ found.stems⟩

instance : Stems source ([] : List α) := ⟨nofun⟩

instance (value : α) (values : List α) [first : Stems source value] [later : Stems source values] :
    Stems source (value :: values) :=
  ⟨List.forall_mem_cons.mpr ⟨first.stems, later.stems⟩⟩

instance (first second : List α) [before : Stems source first] [behind : Stems source second] :
    Stems source (first ++ second) :=
  ⟨List.forall_mem_append.mpr ⟨before.stems, behind.stems⟩⟩

instance (values : List (List α)) [found : Stems source values] : Stems source values.flatten :=
  ⟨fun value member => by
    obtain ⟨part, among, inside⟩ := List.mem_flatten.mp member
    exact found.stems part among value inside⟩

instance (value? : Option α) [found : Stems source value?] : Stems source value?.toList :=
  ⟨fun value member => found.stems value (Option.mem_toList.mp member)⟩

instance (value? : Option α) (other : α) [found : Stems source value?] [Stems source other] :
    Stems source (value?.getD other) := by
  cases value? with
  | none => assumption
  | some value => exact ⟨found.stems value rfl⟩

instance (pair : α × β) [found : Stems source pair] : Stems source pair.1 := ⟨found.stems.1⟩

instance (pair : α × β) [found : Stems source pair] : Stems source pair.2 := ⟨found.stems.2⟩

instance (first : α) (second : β) [one : Stems source first] [other : Stems source second] :
    Stems source (first, second) :=
  ⟨one.stems, other.stems⟩

end

/-! What parsers give. -/

/-- Whatever a parser gives at a place, with where it stops, meets a condition. -/
def Yields {α : Type} (parser : Parser α) (cursor : Cursor) (condition : α → Cursor → Prop) :
    Prop :=
  ∀ value next, parser cursor = some (value, next) → condition value next

theorem Yields.bind {α β : Type} {parser : Parser α} {next : α → Parser β} {cursor : Cursor}
    {middle : α → Cursor → Prop} {condition : β → Cursor → Prop}
    (first : Yields parser cursor middle)
    (later : ∀ value between, middle value between → Yields (next value) between condition) :
    Yields (parser >>= next) cursor condition := by
  intro result stop run
  obtain ⟨⟨value, between⟩, ran, rest⟩ := Option.bind_eq_some_iff.mp run
  exact later value between (first value between ran) result stop rest

theorem Yields.after {α β : Type} {parser : Parser α} {next : α → Parser β} {cursor : Cursor}
    {condition : β → Cursor → Prop}
    (later : ∀ value between, Yields (next value) between condition) :
    Yields (parser >>= next) cursor condition :=
  have anything : Yields parser cursor fun _ _ => True := fun _ _ _ => trivial
  anything.bind fun value between _ => later value between

theorem Yields.and {α : Type} {parser : Parser α} {cursor : Cursor}
    {first second : α → Cursor → Prop} (one : Yields parser cursor first)
    (other : Yields parser cursor second) :
    Yields parser cursor fun value next => first value next ∧ second value next :=
  fun value next run => ⟨one value next run, other value next run⟩

theorem Yields.or_else {α : Type} {first second : Parser α} {cursor : Cursor}
    {condition : α → Cursor → Prop} (one : Yields first cursor condition)
    (other : Yields second cursor condition) : Yields (first <|> second) cursor condition := by
  intro value next run
  have tried : (first cursor <|> second cursor) = some (value, next) := run
  cases ran : first cursor with
  | none => exact other value next (by simpa [ran] using tried)
  | some found => exact one value next (by simpa [ran] using tried)

theorem yields_pure {α : Type} (value : α) (cursor : Cursor) :
    Yields (pure value) cursor fun given next => given = value ∧ next = cursor := by
  intro given next run
  cases run
  exact ⟨rfl, rfl⟩

theorem yields_fail {α : Type} (cursor : Cursor) (condition : α → Cursor → Prop) :
    Yields fail cursor condition :=
  nofun

theorem yields_here (cursor : Cursor) :
    Yields here cursor fun start next => start = cursor.skip ∧ next = cursor.skip := by
  intro start next run
  cases run
  exact ⟨rfl, rfl⟩

theorem yields_node_from (kind : Kind) (start : Cursor) (children : List Node) (cursor : Cursor) :
    Yields (nodeFrom kind start children) cursor fun n next =>
      n = .node kind none start.offset (start.rest.take (cursor.offset - start.offset)) children ∧
        next = cursor := by
  intro n next run
  cases run
  exact ⟨rfl, rfl⟩

theorem yields_optional {α : Type} (parser : Parser α) (cursor : Cursor) :
    Yields (optional? parser) cursor fun value? next =>
      (∃ value, value? = some value ∧ parser cursor = some (value, next)) ∨
        value? = none ∧ next = cursor := by
  intro value? next run
  unfold optional? at run
  split at run
  · rename_i value _ ran
    cases run
    exact .inl ⟨value, rfl, ran⟩
  · cases run
    exact .inr ⟨rfl, rfl⟩

/-- Without a first item, a repetition does not move. -/
theorem yields_many {α : Type} (parser : Parser α) (cursor : Cursor) :
    Yields (many parser) cursor fun values next => values = [] → next = cursor := by
  intro values next run none
  unfold many manyUpTo at run
  split at run
  · cases run
    rfl
  · split at run
    · cases run
      cases none
    · obtain ⟨found, _, same⟩ := Option.map_eq_some_iff.mp run
      rw [none] at same
      cases same

theorem yields_symbol (mark : String) (cursor : Cursor) :
    Yields (symbol mark) cursor fun _ next =>
      next = cursor.skip.move mark.length ∧ cursor.skip.rest = mark.toList ++ next.rest := by
  intro _ next run
  unfold symbol at run
  dsimp only at run
  split at run
  · rename_i starts
    cases run
    obtain ⟨rest, same⟩ := List.isPrefixOf_iff_prefix.mp starts
    refine ⟨rfl, ?_⟩
    rw [Cursor.move, ← same, ← String.length_toList, List.drop_left]
  · cases run

/-- In front of a punctuation mark stand blanks and comments. -/
theorem yields_apart (mark : String) (cursor : Cursor) (visible : mark.toList ≠ []) :
    Yields (symbol mark) cursor fun _ next =>
      ∃ gap, Gap gap ∧ cursor.rest = gap ++ (mark.toList ++ next.rest) := by
  intro value next run
  obtain ⟨-, ahead⟩ := yields_symbol mark cursor value next run
  exact gap_ahead ahead (List.append_ne_nil_of_left_ne_nil visible next.rest)

theorem yields_word (cursor : Cursor) :
    Yields word cursor fun found next => next = cursor.skip.move found.toList.length := by
  intro found next run
  unfold word at run
  dsimp only at run
  split at run
  · cases run
  · cases run
    rw [String.toList_ofList]

/-! Parsers that read a text. -/

/-- A parser stays inside of a text and gives only values that stem from it. -/
class Reads {α : Type} [Origin α] (source : List Char) (parser : Parser α) : Prop where
  reads : ∀ cursor, Placed source cursor →
    Yields parser cursor fun value next => Placed source next ∧ Stems source value

/-- The kinds of nodes that say nothing about the text; resolution evaluates the test. -/
@[reducible]
def isSilent : Kind → Bool
  | .pair => false
  | .decorator => false
  | _ => true

class Holds (test : Bool) : Prop where
  holds : test = true

instance : Holds true := ⟨rfl⟩

theorem written_of_silent {source : List Char} {n : Node} (silent : isSilent n.kind = true)
    (below : ∀ child ∈ n.children, Written source child) : Written source n := by
  refine .node (fun kind => ?_) (fun kind => ?_) below
  · rw [kind] at silent
    cases silent
  · rw [kind] at silent
    cases silent

theorem Reads.at {α : Type} [Origin α] {source : List Char} (parser : Parser α)
    [read : Reads source parser] {cursor : Cursor} (placed : Placed source cursor) :
    Yields parser cursor fun value next => Placed source next ∧ Stems source value :=
  read.reads cursor placed

section

variable {α β : Type} [Origin α] [Origin β] {source : List Char} {parser other : Parser α}

-- The value comes together with its origin: resolution drops a premise that its goal does not name.
instance {next : α → Parser β} [first : Reads source parser]
    [later : ∀ value : {value : α // Stems source value}, Reads source (next value.val)] :
    Reads source (parser >>= next) where
  reads cursor placed :=
    (first.reads cursor placed).bind fun value between read =>
      (later ⟨value, read.2⟩).reads between read.1

/-- The rule for sequences where what follows is not settled by its structure alone. -/
theorem Reads.step {next : α → Parser β} [first : Reads source parser]
    (later : ∀ value, Stems source value → Reads source (next value)) :
    Reads source (parser >>= next) :=
  have (value : {value : α // Stems source value}) := later value.val value.property
  inferInstance

instance (value : α) [Stems source value] : Reads source (pure value : Parser α) where
  reads cursor placed given next run := by
    obtain ⟨rfl, rfl⟩ := yields_pure value cursor given next run
    exact ⟨placed, inferInstance⟩

instance : Reads source (fail : Parser α) where
  reads cursor _ := yields_fail cursor _

instance [one : Reads source parser] [second : Reads source other] :
    Reads source (parser <|> other) where
  reads cursor placed := (one.reads cursor placed).or_else (second.reads cursor placed)

instance {condition : Prop} [Decidable condition] [Reads source parser] [Reads source other] :
    Reads source (if condition then parser else other) := by
  split <;> assumption

instance [one : Reads source parser] : Reads source (some <$> parser) where
  reads cursor placed value? next run := by
    obtain ⟨⟨value, _⟩, ran, same⟩ := Option.bind_eq_some_iff.mp run
    cases same
    obtain ⟨inside, stems⟩ := one.reads cursor placed value next ran
    exact ⟨inside, inferInstance⟩

instance : Reads source (get : Parser Cursor) where
  reads cursor placed _ _ run := by
    cases run
    exact ⟨placed, ⟨placed⟩⟩

instance (start : Cursor) (count : Nat) [stems : Stems source start] :
    Reads source (set (start.move count) : Parser Unit) where
  reads _ _ _ _ run := by
    cases run
    exact ⟨Placed.move stems.stems count, inferInstance⟩

instance : Reads source here where
  reads cursor placed start next run := by
    obtain ⟨rfl, rfl⟩ := yields_here cursor start next run
    exact ⟨placed.skip, ⟨placed.skip⟩⟩

instance : Reads source ahead where
  reads _ placed _ _ run := by
    cases run
    exact ⟨placed, ⟨fun _ _ => trivial⟩⟩

instance : Reads source lineEndsAhead where
  reads _ placed _ _ run := by
    cases run
    exact ⟨placed, ⟨trivial⟩⟩

instance (condition : Bool) : Reads source (ensure condition) := by
  unfold ensure
  infer_instance

instance (kind : Kind) (start : Cursor) (children : List Node)
    [below : Stems source children] [silent : Holds (isSilent kind)] :
    Reads source (nodeFrom kind start children) where
  reads cursor placed n next run := by
    obtain ⟨rfl, rfl⟩ := yields_node_from kind start children cursor n next run
    exact ⟨placed, ⟨written_of_silent silent.holds below.stems⟩⟩

instance [one : Reads source parser] : Reads source (lookahead parser) where
  reads cursor placed _ _ run := by
    obtain ⟨⟨value, next⟩, ran, same⟩ := Option.map_eq_some_iff.mp run
    cases same
    exact ⟨placed, (one.reads cursor placed value next ran).2⟩

instance : Reads source (notAhead parser) where
  reads _ placed _ _ run := by
    unfold notAhead at run
    split at run
    · cases run
    · cases run
      exact ⟨placed, inferInstance⟩

instance [one : Reads source parser] : Reads source (optional? parser) where
  reads cursor placed value? next run := by
    rcases yields_optional parser cursor value? next run with ⟨value, rfl, ran⟩ | ⟨rfl, rfl⟩
    · obtain ⟨inside, stems⟩ := one.reads cursor placed value next ran
      exact ⟨inside, inferInstance⟩
    · exact ⟨placed, inferInstance⟩

/-- The rule for what follows an optional part, according to whether that is there. -/
theorem Reads.step_optional {next : Option α → Parser β} [Reads source parser]
    (present : ∀ value, Stems source value → Reads source (next (some value)))
    (absent : Reads source (next none)) : Reads source (optional? parser >>= next) := by
  refine Reads.step fun value? stems => ?_
  cases value? with
  | none => exact absent
  | some value => exact present value ⟨stems.stems value rfl⟩

instance (bound : Nat) [one : Reads source parser] : Reads source (manyUpTo parser bound) where
  reads cursor placed values next run := by
    induction bound generalizing cursor values with
    | zero =>
        cases run
        exact ⟨placed, inferInstance⟩
    | succ bound ih =>
        unfold manyUpTo at run
        split at run
        · cases run
          exact ⟨placed, inferInstance⟩
        · rename_i value between ran
          obtain ⟨inside, first⟩ := one.reads cursor placed value between ran
          split at run
          · cases run
            exact ⟨inside, inferInstance⟩
          · obtain ⟨⟨found, _⟩, later, same⟩ := Option.map_eq_some_iff.mp run
            cases same
            obtain ⟨ended, rest⟩ := ih between inside found later
            exact ⟨ended, inferInstance⟩

instance [Reads source parser] : Reads source (many parser) where
  reads cursor := Reads.at (manyUpTo parser (cursor.rest.length + 1))

instance (mark : String) : Reads source (symbol mark) where
  reads cursor placed value next run := by
    rw [(yields_symbol mark cursor value next run).1]
    exact ⟨placed.skip.move _, inferInstance⟩

instance (mark : String) (followers : List Char) :
    Reads source (symbolNotBefore mark followers) := by
  unfold symbolNotBefore
  infer_instance

instance (closing : String) (bound : Nat) [Reads source parser] :
    Reads source (itemsUpTo parser closing bound) := by
  induction bound with
  | zero => exact inferInstanceAs (Reads source fail)
  | succ bound ih =>
      rw [itemsUpTo]
      infer_instance

instance (closing : String) [Reads source parser] : Reads source (items parser closing) where
  reads cursor := Reads.at (itemsUpTo parser closing (cursor.rest.length + 1))

theorem yields_items_closing (closing : String) [Reads source parser] {cursor : Cursor}
    (placed : Placed source cursor) :
    Yields (items parser closing) cursor fun _ next => closing.toList ++ next.rest <:+ source := by
  have closes {cursor : Cursor} (placed : Placed source cursor) {α : Type} (value : α) :
      Yields (do symbol closing; pure value) cursor fun _ next =>
        closing.toList ++ next.rest <:+ source := by
    refine (yields_symbol closing cursor).bind fun _ after ⟨_, ahead⟩ value next run => ?_
    obtain ⟨-, rfl⟩ := yields_pure _ _ value next run
    rw [← ahead]
    exact placed.skip.suffix
  have upTo (bound : Nat) {cursor : Cursor} (placed : Placed source cursor) :
      Yields (itemsUpTo parser closing bound) cursor fun _ next =>
        closing.toList ++ next.rest <:+ source := by
    induction bound generalizing cursor with
    | zero => exact yields_fail _ _
    | succ bound ih =>
        rw [itemsUpTo]
        refine (closes placed []).or_else ?_
        refine (Reads.at parser placed).bind fun first between ⟨inside, _⟩ => ?_
        refine Yields.or_else ?_ (closes inside [first])
        refine (Reads.at (symbol ",") inside).bind fun _ between ⟨inside, _⟩ => ?_
        refine (ih inside).bind fun found between ends value next run => ?_
        obtain ⟨-, rfl⟩ := yields_pure _ _ value next run
        exact ends
  exact upTo (cursor.rest.length + 1) placed

instance (closing : String) (bound : Nat) [Reads source parser] :
    Reads source (sparseItemsUpTo parser closing bound) := by
  induction bound with
  | zero => exact inferInstanceAs (Reads source fail)
  | succ bound ih =>
      rw [sparseItemsUpTo]
      infer_instance

instance (closing : String) [Reads source parser] :
    Reads source (sparseItems parser closing) where
  reads cursor := Reads.at (sparseItemsUpTo parser closing (cursor.rest.length + 1))

instance {mark : Parser Unit} [Reads source parser] [Reads source mark] :
    Reads source (separated parser mark) := by
  unfold separated
  infer_instance

instance : Reads source wordAhead := by
  unfold wordAhead
  infer_instance

instance : Reads source word where
  reads cursor placed found next run := by
    rw [yields_word cursor found next run]
    exact ⟨placed.skip.move _, inferInstance⟩

instance (wanted : String) : Reads source (keyword wanted) := by
  unfold keyword
  infer_instance

instance (wanted : List String) : Reads source (keywordIn wanted) := by
  unfold keywordIn
  infer_instance

end

end SelectorAudit.Markup.Grammar
