import DocCatalog.Record.Basic
import DocCatalog.Text.Blank
import DocCatalog.Text.Case
/-!
# Commands

A command of the command line with its arguments and options, and the packages that the generator of
the command line knows.

* `camelCase`: the key of a command, whose name may hold dashes and colons.
-/

namespace DocCatalog

/-- What an option takes. -/
inductive OptionType where
  | boolean
  | string
  | number
  deriving DecidableEq, Repr

def OptionType.text : OptionType → String
  | .boolean => "boolean"
  | .string => "string"
  | .number => "number"

inductive OptionDefault where
  | bool (b : Bool)
  /-- A number as it is written. -/
  | number (text : String)
  | str (text : String)
  deriving DecidableEq, Repr

structure CommandOption where
  name : String
  alias? : Option String
  type : OptionType
  default? : Option OptionDefault
  description : String
  choices : List String
  deriving DecidableEq, Repr

structure CommandArgument where
  name : String
  description : String
  isRequired : Bool
  deriving DecidableEq, Repr

structure CommandRecord where
  name : String
  alias? : Option String
  description : String
  usage : String
  arguments : List CommandArgument
  options : List CommandOption
  examples : List String
  notes : List String
  provenance : Provenance
  deriving DecidableEq, Repr

/-- A package of generated modules. -/
structure PackageInfo where
  name : String
  description : String
  features : List String
  useCases : List String
  command : String
  deriving DecidableEq, Repr

/-- The characters between the words of a command's name. -/
def isWordBreak (c : Char) : Bool := c == '-' || c == ':'

/-- The words without what stands between them, each but the first with a capital letter. -/
def camelCase (name : List Char) : List Char := go false name
where
  /-- `raised` holds behind a word break. -/
  go (raised : Bool) : List Char → List Char
    | [] => []
    | c :: r =>
      if isWordBreak c then go true r
      else if raised then Text.uppercase c ++ go false r
      else c :: go false r

/-- A command's key is its name in camel case, and it needs a usage. -/
instance : Catalogued CommandRecord where
  kind := .command
  name r := r.name
  key r := String.ofList (camelCase r.name.toList)
  description r := r.description
  example? r := r.examples.head?
  provenance r := r.provenance
  missing? r := if Text.isAllBlank r.usage.toList then some "usage" else none

end DocCatalog
