import DocCatalog.Outline.Basic
import DocCatalog.Doc.Comment
import DocCatalog.Extract.FileResult
import DocCatalog.Extract.Flag
/-!
# Extracting commands

A command is registered by a call `.command('name <argument>')` in a chain of calls, and described
by the calls behind it.

* `segments`: the parts of a chain, each from one such call up to the next.
* `argumentOf?`: an argument written as `<name>` or `[name]`.
* `argumentsOf`: the arguments of a command from its usage, its calls and its comment.
* `recordOf`, `warningsOf`: the record and the warnings of a segment. Each part of them is read off
  the calls on its own.
-/

namespace DocCatalog.Extract.Command

open Script (Value Call)
open Doc (DocComment Tag Param)

/-! ## Segments

What stands in front of the first registering call says nothing about a command. -/

/-- The first argument of a call, if it is a string. -/
def firstString? (call : Call) : Option String := call.arguments.head?.bind Value.asString?

/-- Whether a call registers a command. -/
def isHead (call : Call) : Bool := call.callee == "command" && (firstString? call).isSome

/-- A registering call with the calls that describe the command. -/
structure Segment where
  head : Call
  rest : List Call

/-- The calls before the first registering one, and the segments from there on. -/
def splitCalls : List Call → List Call × List Segment
  | [] => ([], [])
  | c :: cs =>
    let (rest, segments) := splitCalls cs
    if isHead c then ([], ⟨c, rest⟩ :: segments) else (c :: rest, segments)

/-- The segments of a chain. -/
def segments (chain : CallChain) : List Segment := (splitCalls chain.calls).2

namespace Segment

/-- The calls of the given name behind the head. -/
def callsNamed (s : Segment) (names : List String) : List Call :=
  s.rest.filter fun c => names.contains c.callee

def usage (s : Segment) : List Char := Text.trim ((firstString? s.head).getD "").toList

/-- The first word of the usage, without square brackets at its ends. -/
def name (s : Segment) : List Char :=
  let isBracket (c : Char) : Bool := c == '[' || c == ']'
  let word := (Text.words s.usage).head?.getD []
  ((word.dropWhile isBracket).reverse.dropWhile isBracket).reverse

end Segment

/-! ## Arguments

An argument is known by its name: what the usage, the calls and the comment say of one name is put
together. -/

/-- The text in front of the dots that mark a repeatable argument. -/
def dropDots (s : List Char) : List Char := (go s.reverse).reverse
where
  go : List Char → List Char
    | '.' :: '.' :: '.' :: r => go r
    | s => s

/-- An argument in angle brackets is required, one in square brackets is not. -/
def argumentOf? (token : List Char) : Option CommandArgument := do
  let inside (o c : Char) : Option (List Char) :=
    (Text.afterStart? [o] token).bind (Text.beforeEnd? [c])
  let (inner, isRequired) ←
    ((inside '<' '>').map (·, true)) <|> ((inside '[' ']').map (·, false))
  let name := Text.trim (dropDots inner)
  if name.isEmpty then none else return ⟨String.ofList name, "", isRequired⟩

/-- Adds an argument, or gives the first argument of that name its description. -/
def mergeArgument (arguments : List CommandArgument) (a : CommandArgument) :
    List CommandArgument :=
  match arguments with
  | [] => [a]
  | b :: bs =>
    if b.name == a.name then { b with description := a.description } :: bs
    else b :: mergeArgument bs a

/-- The argument that an `.argument()` call declares. -/
def declaredArgument? (call : Call) : Option CommandArgument := do
  let token ← firstString? call
  let a ← argumentOf? token.toList
  return { a with description := Flag.stringArgument call 1 }

/-- Describes the first argument of the parameter's name, unless that has a description. -/
def describe (arguments : List CommandArgument) (p : Param) : List CommandArgument :=
  match arguments with
  | [] => []
  | a :: as =>
    if a.name == p.name then
      (if a.description.isEmpty then { a with description := p.description } else a) :: as
    else a :: describe as p

/-- The arguments in the usage, then those of `.argument()` calls. -/
def calledArguments (s : Segment) : List CommandArgument :=
  ((s.callsNamed ["argument"]).filterMap declaredArgument?).foldl mergeArgument
    (((Text.words s.usage).drop 1).filterMap argumentOf?)

/-- The arguments of a command. Parameters of its comment fill in missing descriptions. -/
def argumentsOf (s : Segment) (doc : DocComment) : List CommandArgument :=
  if doc.isDoc then doc.params.foldl describe (calledArguments s) else calledArguments s

/-! ## Records

A segment gives one record, or a warning that it has no name. -/

/-- The text of the last `.description()` call, without outer blanks. -/
def calledDescription (s : Segment) : String :=
  (((s.callsNamed ["description"]).filterMap firstString?).getLast?.getD "").trimBlanks

/-- The description in the comment, or else the one that is called for. -/
def descriptionOf (s : Segment) (doc : DocComment) : String :=
  if doc.isDoc && !doc.descriptionText.isEmpty then doc.descriptionText else calledDescription s

def optionCalls (s : Segment) : List Call := s.callsNamed ["option", "requiredOption"]

/-- The option that a call declares. -/
def optionOf? (call : Call) : Option CommandOption :=
  (firstString? call).bind (Flag.optionOf? · call)

/-- The record of a segment that has a name. -/
def recordOf (path : String) (s : Segment) (doc : DocComment) : CommandRecord where
  name := String.ofList s.name
  alias? := (s.callsNamed ["alias"]).findSome? firstString?
  description := descriptionOf s doc
  usage := String.ofList s.usage
  arguments := argumentsOf s doc
  options := (optionCalls s).filterMap optionOf?
  examples := if doc.isDoc then doc.examples else []
  notes := if doc.isDoc then Tag.all doc.tags "note" else []
  provenance := ⟨path, s.head.line⟩

/-- The warnings about a segment that has a name. -/
def warningsOf (path : String) (s : Segment) (doc : DocComment) : List Diagnostic :=
  let name := String.ofList s.name
  let flagless := (optionCalls s).filter fun c => (optionOf? c).isNone
  flagless.map (fun c => (Finding.optionWithoutLongFlag name).place path (some c.line))
    ++ if doc.isDoc then
        doc.unmatchedParams.map fun v => (Finding.oddParam name v).place path (some s.head.line)
      else if (calledDescription s).isEmpty then
        [(Finding.undocumented .command name).place path (some s.head.line)]
      else []

/-- The records and the diagnostics of a segment. -/
def ofSegment (path : String) (s : Segment) (doc : DocComment) :
    List CommandRecord × List Diagnostic :=
  if s.name.isEmpty then ([], [Finding.unnamedCommand.place path (some s.head.line)])
  else ([recordOf path s doc], warningsOf path s doc)

/-- The comment of a chain documents its first command only. -/
def documented (chain : CallChain) : List (Segment × DocComment) :=
  match segments chain with
  | [] => []
  | s :: rest => (s, DocComment.ofNode chain.comment) :: rest.map (·, DocComment.empty)

/-- The commands of a file. -/
def ofFile (o : Outline) (path : String) : FileResult CommandRecord :=
  let parts := (o.chains.flatMap documented).map fun (s, doc) => ofSegment path s doc
  ⟨parts.flatMap (·.1), parts.flatMap (·.2), true⟩

end DocCatalog.Extract.Command
