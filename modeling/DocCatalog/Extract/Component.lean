import DocCatalog.Outline.Basic
import DocCatalog.Extract.Related
import DocCatalog.Extract.FileResult
import DocCatalog.Record.Component
/-!
# Extracting components

A component is a class decorated with `@Component({ selector })`.

* `categoryOf`: the category that the place of a file gives.
* `inputOf?`, `outputOf?`: what a member is to users of the component. Each has two recognisers, one
  for decorators and one for initializers.
* `membersOf`: the inputs and outputs of a class. A member is an input or an output, not both.
-/

namespace DocCatalog.Extract.Component

open Script (Value Call)
open Doc (DocComment Tag)

/-! ## Categories

Components are grouped by the directory that they lie in, below the root of the categories if there
is one. -/

/-- The category of files that lie in no directory of their own. -/
def generalCategory : String := "general"

/-- The first directory of a path that has one. -/
def firstDirectory? (path : List Char) : Option String :=
  if path.contains '/' then some (String.ofList (path.takeWhile (· != '/'))) else none

/-- The directory below `root` in which a file lies. -/
def categoryOf (root : Option String) (path : String) : String :=
  let found := do
    let root ← root
    let root := (root.toList.reverse.dropWhile (· == '/')).reverse
    let rest ←
      if root.isEmpty then some path.toList
      else (Text.afterStart? root path.toList).bind (Text.afterStart? ['/'])
    firstDirectory? rest
  found.getD generalCategory

/-! ## Members

A member is asked as an input first, and as an output only if it is none. -/

/-- What a member is for: its comment, or else the comment behind it. -/
def memberDescription (m : Member) : String :=
  let leading := (DocComment.ofNode m.comment).descriptionText
  if !leading.isEmpty then leading
  else ((m.trailingComment.map DocComment.parse).map (·.descriptionText)).getD ""

/-- The type of a value, as far as it can be read off. -/
def literalType : Value → String
  | .str _ => "string"
  | .number _ => "number"
  | .bool _ => "boolean"
  | .array _ => "unknown[]"
  | .object _ => "object"
  | .call .. => "unknown"
  | .expr _ => "unknown"

/-- The string under a key of an object. -/
def stringProperty? (v : Value) (key : String) : Option String :=
  (v.property? key).bind Value.asString?

/-- A field or setter decorated with `@Input`. -/
def decoratedInput? (m : Member) : Option ComponentInput := do
  if m.kind != .field && m.kind != .setter then none
  let decorator ← Decorator.find? m.decorators "Input"
  let options := decorator.arguments.head?
  let alias? := options.bind fun o => o.asString? <|> stringProperty? o "alias"
  let isRequired := (options.bind (·.property? "required")).any Value.isTrue
  return {
    name := alias?.getD m.name
    typeText := (m.typeText <|> m.value.map literalType).getD "unknown"
    default? := if isRequired then none else m.value.map Value.sourceText
    description := memberDescription m
    isRequired := isRequired }

/-- The call that a member is initialized with. -/
def initializerCall? (m : Member) : Option Call := m.value.bind Value.asCall?

/-- Whether a call makes an input, and then whether that is required. -/
def signalInput? (callee : String) : Option Bool :=
  match callee with
  | "input" | "model" => some false
  | "input.required" | "model.required" => some true
  | _ => none

/-- A member initialized with `input()`, `model()` or one of their required forms. -/
def initializedInput? (m : Member) : Option ComponentInput := do
  let call ← initializerCall? m
  let isRequired ← signalInput? call.callee
  let default := if isRequired then none else call.arguments.head?
  let options := if isRequired then call.arguments.head? else call.arguments[1]?
  return {
    name := (options.bind (stringProperty? · "alias")).getD m.name
    typeText := (call.typeArguments <|> default.map literalType).getD "unknown"
    default? := default.map Value.sourceText
    description := memberDescription m
    isRequired := isRequired }

def inputOf? (m : Member) : Option ComponentInput := decoratedInput? m <|> initializedInput? m

/-- The type of what an emitter emits; any other type stays as it is. -/
def payloadType (type : String) : String :=
  let inner (wrapper : String) : Option String :=
    ((Text.afterStart? wrapper.toList type.toList).bind (Text.beforeEnd? ['>'])).map fun s =>
      String.ofList (Text.trim s)
  (inner "EventEmitter<" <|> inner "OutputEmitterRef<").getD type

/-- A member decorated with `@Output`. -/
def decoratedOutput? (m : Member) : Option ComponentOutput := do
  let decorator ← Decorator.find? m.decorators "Output"
  let alias? := decorator.arguments.head?.bind Value.asString?
  return {
    name := alias?.getD m.name
    typeText :=
      (m.typeText.map payloadType
        <|> (initializerCall? m).map fun call => call.typeArguments.getD "void").getD "void"
    description := memberDescription m }

/-- A member initialized with `output()`. -/
def initializedOutput? (m : Member) : Option ComponentOutput := do
  let call ← initializerCall? m
  if call.callee != "output" then none
  return {
    name := (call.arguments.head?.bind (stringProperty? · "alias")).getD m.name
    typeText := call.typeArguments.getD "void"
    description := memberDescription m }

def outputOf? (m : Member) : Option ComponentOutput :=
  decoratedOutput? m <|> initializedOutput? m

/-- Members whose name begins with `#` are of no use from outside. -/
def isHidden (m : Member) : Bool := m.name.toList.head? == some '#'

/-- The inputs and outputs among members. -/
def membersOf : List Member → List ComponentInput × List ComponentOutput
  | [] => ([], [])
  | m :: ms =>
    let (inputs, outputs) := membersOf ms
    if isHidden m then (inputs, outputs)
    else
      match inputOf? m, outputOf? m with
      | some input, _ => (input :: inputs, outputs)
      | none, some output => (inputs, output :: outputs)
      | none, none => (inputs, outputs)

/-! ## Files -/

/-- The selector among the arguments of a `@Component` decorator. -/
def selectorOf (d : Decorator) : String :=
  (d.arguments.head?.bind (stringProperty? · "selector")).getD ""

/-- The record of a class, if it is a component. -/
def recordOf? (root : Option String) (path : String) (d : Declaration) : Option ComponentRecord := do
  if d.kind != .classLike then none
  let decorator ← Decorator.find? d.decorators "Component"
  let doc := DocComment.ofNode d.comment
  let tags := doc.tags
  let (inputs, outputs) := membersOf d.members
  return {
    name := d.name
    selector := selectorOf decorator
    category := (filled? (Tag.last? tags "category")).getD (categoryOf root path)
    description := doc.descriptionText
    inputs := inputs
    outputs := outputs
    usage := doc.examples.head?
    bestPractices := (Tag.all tags "bestPractice").filter (!·.isEmpty)
    related := relatedNames tags
    provenance := ⟨path, d.line⟩ }

/-- A warning for a record whose declaration has no documentation comment. -/
def warning? (path : String) (d : Declaration) : Option Diagnostic :=
  if (DocComment.ofNode d.comment).isDoc then none
  else some ((Finding.undocumented .component d.name).place path (some d.line))

/-- The components of a file. -/
def ofFile (root : Option String) (o : Outline) (path : String) : FileResult ComponentRecord :=
  let found := o.declarations.filter fun d => (recordOf? root path d).isSome
  ⟨found.filterMap (recordOf? root path), found.filterMap (warning? path), true⟩

end DocCatalog.Extract.Component
