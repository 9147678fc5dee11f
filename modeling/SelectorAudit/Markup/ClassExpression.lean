import SelectorAudit.Markup.Tree
import SelectorAudit.Report.ErrorLog
import SelectorAudit.Report.Journal
import SelectorAudit.Selector
import SelectorAudit.Text.Identifier

/-!
# Names in the attributes of elements

The value of a `className` or `id` attribute is classified by its shape and never evaluated. Some
expressions contribute names themselves: strings, templates, properties of a style module and the
quoted keys of objects. Others pass on the names of their operands: calls, arrays, parentheses,
logical operators and conditions. All others contribute nothing.
-/

namespace SelectorAudit.Markup

set_option autoImplicit false

open Text Report

def logicalOperators : List String := ["&&", "||", "??"]

def Node.plainName (n : Node) : String :=
  String.ofList (n.text.dropWhile fun c => c == '#')

def objectKeyNames (n : Node) : List String :=
  n.significant.flatMap fun property =>
    match property.kind, property.child? .key with
    | .pair, some key => if key.kind == .string then staticTokens key.stringValue else []
    | _, _ => []

def Node.ownNames (n : Node) : List String :=
  match n.kind with
  | .string => staticTokens n.stringValue
  | .templateString => n.fragments.flatMap staticTokens
  | .member =>
      match n.child? .property with
      | some property =>
          if property.kind == .propertyIdentifier || property.kind == .privateIdentifier then
            [property.plainName]
          else []
      | none => []
  | .subscript =>
      match n.child? .index with
      | some index =>
          if index.kind == .string && !index.stringValue.isEmpty then
            [String.ofList index.stringValue]
          else []
      | none => []
  | .object => objectKeyNames n
  | _ => []

/-- The parts of an expression whose names it passes on, in source order. -/
def Node.operands (n : Node) : List Node :=
  match n.kind with
  | .call =>
      match n.child? .arguments with
      | some given => if given.kind == .templateString then [given] else given.significant
      | none => []
  | .array | .parenthesized => n.significant
  | .binary operator =>
      if logicalOperators.contains operator then
        (n.child? .left).toList ++ (n.child? .right).toList
      else []
  | .ternary => (n.child? .consequence).toList ++ (n.child? .alternative).toList
  | _ => []

theorem Node.count_lt_of_child? {n child : Node} {role : Role} (found : n.child? role = some child) :
    child.count < n.count :=
  count_lt_of_mem_children (mem_children_of_child? found)

theorem Node.count_lt_of_mem_significant {n child : Node} (member : child ∈ n.significant) :
    child.count < n.count :=
  count_lt_of_mem_children (mem_children_of_mem_significant member)

theorem Node.count_lt_of_mem_operands {n operand : Node} (member : operand ∈ n.operands) :
    operand.count < n.count := by
  unfold operands at member
  split at member
  · split at member
    · next given found =>
        have outer := count_lt_of_child? found
        split at member
        · rw [List.mem_singleton.mp member]
          exact outer
        · have := count_lt_of_mem_significant member
          omega
    · cases member
  · exact count_lt_of_mem_significant member
  · exact count_lt_of_mem_significant member
  · split at member
    · rcases List.mem_append.mp member with left | right
      · exact count_lt_of_child? (Option.mem_toList.mp left)
      · exact count_lt_of_child? (Option.mem_toList.mp right)
    · cases member
  · rcases List.mem_append.mp member with left | right
    · exact count_lt_of_child? (Option.mem_toList.mp left)
    · exact count_lt_of_child? (Option.mem_toList.mp right)
  · cases member

def classNames (n : Node) : List String :=
  n.ownNames ++ n.operands.attach.flatMap fun operand => classNames operand.val
termination_by n.count
decreasing_by exact Node.count_lt_of_mem_operands operand.property

def namingAttributes : List String := ["className", "id"]

/-- The names in an attribute of an element. -/
def attributeNames (given : Node) : List String :=
  match given.significant with
  | named :: value :: _ =>
      if namingAttributes.contains (String.ofList named.text) then
        match value.kind with
        | .string => staticTokens value.stringValue
        | .jsxExpression =>
            match value.significant with
            | inner :: _ => classNames inner
            | [] => []
        | _ => []
      else []
  | _ => []

/-- The names in all attributes of a tree, in source order. -/
def treeNames (root : Node) : List String :=
  (root.walk fun kind => kind == .jsxAttribute).flatMap attributeNames

/-- What the markup of one module uses, and what was reported on the way. -/
structure Usage where
  used : List UsedName
  errors : List ErrorRecord
  journal : Journal

def Usage.none : Usage := ⟨[], [], []⟩

def brokenModuleError (file : String) : ErrorRecord :=
  { kind := .jsxParse
    message := "Syntax error in React component; results may be partial"
    file := some file
    details := Option.none
    recoverable := true }

/-- The names that the elements of a module use. -/
def elementUsage (parse : ModuleParser) (source : List Char) (file : String) : Usage :=
  if isAllBlank source then Usage.none
  else
    let tree := parse true source
    let used := (treeNames tree.root).map fun name => UsedName.mk name file
    let found : JournalLine :=
      ⟨.debug, .jsx, "Found " ++ toString used.length ++ " used identifiers in " ++ file⟩
    if tree.intact then ⟨used, [], [found]⟩
    else
      ⟨used, [brokenModuleError file],
        [⟨.warning, .jsx, "Syntax errors in " ++ file ++ "; using partial parse"⟩, found]⟩

end SelectorAudit.Markup
