import DocCatalog.Script.Value
/-!
# Outlines

What the extractors need of one source file: its declarations with their comments, decorators and
members, and its chains of member calls.
-/

namespace DocCatalog

open Script (Value Call)

structure Decorator where
  name : String
  arguments : List Value
  deriving Repr, Inhabited

inductive DeclarationKind where
  | classLike
  | function
  | const
  | variable
  | interface
  | typeAlias
  | enum
  deriving DecidableEq, Repr

inductive MemberKind where
  | field
  | method
  | getter
  | setter
  deriving DecidableEq, Repr

/-- A member of a class. -/
structure Member where
  kind : MemberKind
  name : String
  line : Nat
  comment : Option String
  /-- A comment behind a field, on the row on which the field ends. -/
  trailingComment : Option String
  decorators : List Decorator
  /-- The type without the colon. -/
  typeText : Option String
  value : Option Value
  isOptional : Bool
  deriving Repr

/-- A declaration at the top level of a file. -/
structure Declaration where
  kind : DeclarationKind
  name : String
  line : Nat
  isExported : Bool
  comment : Option String
  decorators : List Decorator
  members : List Member
  value : Option Value
  deriving Repr

/-- Calls of members, one on the result of the other: `program.command('x').option('-f')`. -/
structure CallChain where
  line : Nat
  comment : Option String
  /-- What the first member belongs to. -/
  receiver : String
  calls : List Call
  deriving Repr

structure Outline where
  declarations : List Declaration
  chains : List CallChain
  deriving Repr

/-- The first decorator of the given name. -/
def Decorator.find? (decorators : List Decorator) (name : String) : Option Decorator :=
  List.find? (·.name == name) decorators

def Outline.exported (o : Outline) : List Declaration := o.declarations.filter (·.isExported)

end DocCatalog
