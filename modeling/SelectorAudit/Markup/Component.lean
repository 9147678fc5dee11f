import SelectorAudit.Markup.ClassExpression
import SelectorAudit.Markup.Template
import SelectorAudit.Path
import SelectorAudit.Storage.Access

/-!
# Decorated components

A class is a component when it carries a `Component` decorator whose argument is an object with a
template, either in place or as a reference to a file. The names that a component uses are those of
its template.
-/

namespace SelectorAudit.Markup

set_option autoImplicit false

open Text Report Storage

structure Component where
  file : String
  template : Option String
  templateUrl : Option String
  /-- Style sheets of the component; names are matched across all style sheets alike. -/
  styleUrls : List String
  deriving DecidableEq, Repr

def Component.hasTemplate (component : Component) : Bool :=
  component.template.isSome || component.templateUrl.isSome

def Component.blank (file : String) : Component := ⟨file, none, none, []⟩

def decoratorName : String := "Component"

/-- The text of a string or template, where static fragments are divided by blanks. -/
def Node.literalText? (n : Node) : Option String :=
  match n.kind with
  | .string => some (String.ofList n.stringValue)
  | .templateString => some (" ".intercalate (n.fragments.map String.ofList))
  | _ => none

def Node.pairKey? (n : Node) : Option String :=
  match n.child? .key with
  | some key =>
      match key.kind with
      | .propertyIdentifier => some (String.ofList key.text)
      | .string => some (String.ofList key.stringValue)
      | _ => none
  | none => none

/-- The keys and values of an object. -/
def Node.entries (n : Node) : List (String × Node) :=
  n.significant.filterMap fun property =>
    match property.kind, property.pairKey?, property.child? .value with
    | .pair, some key, some value => some (key, value)
    | _, _, _ => none

def Node.stringItems (n : Node) : List String :=
  (n.significant.filter fun item => item.kind == .string).map fun item =>
    String.ofList item.stringValue

/-- Takes one property of the decorator's object into account. -/
def Component.withEntry (component : Component) (entry : String × Node) : Component :=
  match entry.1 with
  | "template" => { component with template := entry.2.literalText? }
  | "templateUrl" =>
      if entry.2.kind == .string then
        { component with templateUrl := some (String.ofList entry.2.stringValue) }
      else component
  | "styleUrls" =>
      if entry.2.kind == .array then { component with styleUrls := entry.2.stringItems }
      else component
  | "styleUrl" =>
      if entry.2.kind == .string then
        { component with styleUrls := [String.ofList entry.2.stringValue] }
      else component
  | _ => component

def componentOf (file : String) (object : Node) : Component :=
  object.entries.foldl Component.withEntry (Component.blank file)

def templateNotes (object : Node) : Journal :=
  (object.entries.filter fun entry =>
    entry.1 == "template" && entry.2.kind == .templateString && entry.2.hasSubstitutions).map
    fun _ => ⟨.debug, .components, "Template literal with substitutions; using static text only"⟩

def isClassKind (kind : Kind) : Bool :=
  kind == .classDeclaration || kind == .abstractClassDeclaration || kind == .classExpression

def Node.decoratorChildren (n : Node) : List Node :=
  n.children.filter fun child => child.kind == .decorator

/-- The decorators of a class: its own, and those in front of the export it stands in. -/
def Visit.decorators (visit : Visit) : List Node :=
  visit.node.decoratorChildren ++
    match visit.parent with
    | some parent => if parent.kind == .exportStatement then parent.decoratorChildren else []
    | none => []

def Node.componentObject? (decorator : Node) : Option Node :=
  match decorator.significant with
  | call :: _ =>
      match call.kind, call.child? .function, call.child? .arguments with
      | .call, some function, some given =>
          if function.kind == .identifier && function.text == decoratorName.toList then
            match given.significant with
            | first :: _ => if first.kind == .object then some first else none
            | [] => none
          else none
      | _, _, _ => none
  | [] => none

def componentObjects (root : Node) : List Node :=
  (root.visits.filter fun visit => isClassKind visit.node.kind).flatMap fun visit =>
    visit.decorators.filterMap Node.componentObject?

/-- The components with a template in a tree. -/
def treeComponents (file : String) (root : Node) : List Component :=
  ((componentObjects root).map (componentOf file)).filter Component.hasTemplate

structure ComponentFindings where
  components : List Component
  journal : Journal

def findComponents (parse : ModuleParser) (source : List Char) (file : String) :
    ComponentFindings :=
  let tree := parse false source
  let broken : Journal :=
    if tree.intact then []
    else [⟨.debug, .components, "Syntax errors in " ++ file ++ "; decorators may be missed"⟩]
  ⟨treeComponents file tree.root,
    broken ++ (componentObjects tree.root).flatMap templateNotes⟩

def startsMarked (word : List Char) (mark : Char) (text : List Char) : Bool :=
  match behindWord? word text with
  | some behind => (trimLeft behind).head? == some mark
  | none => false

def startsFrameworkImport (text : List Char) : Bool :=
  match behindWord? "from".toList text with
  | some (c :: rest) =>
      isBlank c &&
        match trimLeft rest with
        | mark :: behind => isQuote mark && "@angular".toList.isPrefixOf behind
        | [] => false
  | _ => false

/-- Whether a module shows any sign of a decorated component. -/
def looksLikeComponentModule (source : List Char) : Bool :=
  anyTail (fun text =>
    startsMarked "@Component".toList '(' text || startsFrameworkImport text ||
      startsMarked "templateUrl".toList ':' text || startsMarked "template".toList ':' text ||
      startsMarked "styleUrls".toList ':' text || startsMarked "styleUrl".toList ':' text) source

/-- The names that decorated components use. A breakdown of the reader leaves no names, but what
was reported before it stays. -/
structure ComponentUsage (State : Type) where
  outcome : Except String (List UsedName)
  errors : List ErrorRecord
  journal : Journal
  state : State

def Component.templatePath (component : Component) (url : String) : String :=
  Path.resolve (Path.dirName component.file) url

def templateError (component : Component) (url : String) (fault : AccessFault) : ErrorRecord :=
  { kind := .fileAccess
    message := "Template file not accessible: " ++ url
    file := some (component.templatePath url)
    details := some ("Referenced from " ++ Path.baseName component.file ++ " (" ++
      fault.reason.word ++ ")")
    recoverable := true }

/-- The names in a template file. -/
def externalUsage {State : Type} (read : Reader State) (limit : Int) (state : State)
    (component : Component) (url : String) : ComponentUsage State :=
  let path := component.templatePath url
  match read state path limit with
  | (.text content, state) => ⟨.ok (Template.usage content path), [], [], state⟩
  | (.fault fault, state) =>
      ⟨.ok [], [templateError component url fault],
        [⟨.warning, .components,
          "Template " ++ url ++ " for " ++ component.file ++ ": " ++ fault.message⟩], state⟩
  | (.breakdown message, state) => ⟨.error message, [], [], state⟩

/-- The names in a component's template; a template in place wins over a reference. -/
def Component.usage {State : Type} (read : Reader State) (limit : Int) (state : State)
    (component : Component) : ComponentUsage State :=
  match component.template, component.templateUrl with
  | some template, _ => ⟨.ok (Template.usage template.toList component.file), [], [], state⟩
  | none, some url => externalUsage read limit state component url
  | none, none => ⟨.ok [], [], [], state⟩

def componentsUsage {State : Type} (read : Reader State) (limit : Int) (state : State) :
    List Component → ComponentUsage State
  | [] => ⟨.ok [], [], [], state⟩
  | component :: rest =>
      let first := component.usage read limit state
      match first.outcome with
      | .error _ => first
      | .ok used =>
          let later := componentsUsage read limit first.state rest
          { outcome := later.outcome.map fun more => used ++ more
            errors := first.errors ++ later.errors
            journal := first.journal ++ later.journal
            state := later.state }

/-- The names that the decorated components of a module use. -/
def decoratedUsage {State : Type} (parse : ModuleParser) (read : Reader State) (limit : Int)
    (state : State) (source : List Char) (file : String) : ComponentUsage State :=
  if isAllBlank source then ⟨.ok [], [], [], state⟩
  else if !looksLikeComponentModule source then
    ⟨.ok [], [], [⟨.debug, .components,
      "Skipping " ++ Path.baseName file ++ ": not a decorated component module"⟩], state⟩
  else
    let found := findComponents parse source file
    let summary : JournalLine :=
      ⟨.debug, .components, "Found " ++ toString found.components.length ++ " @" ++
        decoratorName ++ " decorators in " ++ file⟩
    let usage := componentsUsage read limit state found.components
    { usage with journal := found.journal ++ summary :: usage.journal }

def defaultTemplateLimit : Int := 2 * 1024 * 1024

end SelectorAudit.Markup
