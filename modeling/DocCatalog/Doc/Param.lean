import DocCatalog.Text.Word
import DocCatalog.Text.Split
/-!
# Parameter tags

The value of a `@param` tag: a type in braces or none, a name, and a description behind a dash. The
name may stand in brackets, with a default.

* `Param.parse?`: name and description, or nothing if the value has another form.
-/

namespace DocCatalog.Doc

structure Param where
  name : String
  description : String
  deriving DecidableEq, Repr

namespace Param

def isNameStart (c : Char) : Bool := c.isAlpha || c == '_' || c == '$'

def isNamePart (c : Char) : Bool := Text.isWordChar c || c == '$' || c == '.'

/-- The text behind a type in braces, and behind the blanks that follow it. `none` if the braces are
not closed. -/
def afterType? (s : List Char) : Option (List Char) :=
  match s with
  | '{' :: r =>
    match r.dropWhile (· != '}') with
    | [] => none
    | _ :: rest => some (Text.trimStart rest)
  | _ => some s

/-- The text behind a dash that stands between blanks at the head of `s`. -/
def afterDash? (s : List Char) : Option (List Char) :=
  match s, Text.trimStart s with
  | c :: _, '-' :: d :: r => if Text.isBlank c && Text.isBlank d then some (d :: r) else none
  | _, _ => none

/-- What follows the name: a dash, maybe behind a closing bracket. -/
def afterBracket? (s : List Char) : Option (List Char) :=
  match s with
  | ']' :: r => afterDash? r
  | _ => afterDash? s

/-- What follows a default. The default ends at its closing bracket, if the description follows
there, or else at the last dash before it. -/
def afterDefault? : List Char → Option (List Char)
  | [] => none
  | c :: r =>
    if c == ']' then afterBracket? (c :: r)
    else afterDefault? r <|> afterDash? (c :: r)

/-- Name and description of a parameter. -/
def parse? (value : List Char) : Option Param := do
  let s ← afterType? value
  let s := match s with
    | '[' :: r => r
    | r => r
  let name := s.takeWhile isNamePart
  let first ← name.head?
  let rest := s.drop name.length
  let description ← match rest with
    | '=' :: r => afterDefault? r
    | r => afterBracket? r
  if isNameStart first then
    some ⟨String.ofList name, String.ofList (Text.trim description)⟩
  else none

end Param

end DocCatalog.Doc
