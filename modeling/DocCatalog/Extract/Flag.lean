import DocCatalog.Script.Value
import DocCatalog.Record.Command
import DocCatalog.Text.Word
import DocCatalog.Text.Split
/-!
# Flags of options

Reads the flags of an option, such as `-p, --package <standard|full>`.

* `longFlag?`: the long flag and its placeholder.
* `shortFlag?`: the letter of the short flag.
* `optionOf?`: the option that a call declares.
-/

namespace DocCatalog.Extract.Flag

open Script (Value Call)

/-- The characters of a long flag behind the first. -/
def isFlagChar (c : Char) : Bool := Text.isWordChar c || c == '-'

/-- The text of the placeholder at the head of `s`, behind blanks and in brackets of either kind. -/
def placeholder? (s : List Char) : Option (List Char) :=
  match s, Text.trimStart s with
  | c :: _, o :: r =>
    if Text.isBlank c && (o == '<' || o == '[') then
      let text := r.takeWhile fun c => c != '>' && c != ']'
      if text.isEmpty || (r.drop text.length).isEmpty then none else some text
    else none
  | _, _ => none

/-- The first long flag in the text, and its placeholder. -/
def longFlag? : List Char → Option (List Char × Option (List Char))
  | [] => none
  | c :: s =>
    match c, s with
    | '-', '-' :: d :: r =>
      if d.isAlphanum then
        let name := (d :: r).takeWhile isFlagChar
        some (name, placeholder? ((d :: r).drop name.length))
      else longFlag? s
    | _, _ => longFlag? s

/-- The letter of a short flag at the head of a part. -/
def shortLetter? (part : List Char) : Option Char :=
  match part with
  | ['-', c] => if c.isAlphanum then some c else none
  | '-' :: c :: d :: _ => if c.isAlphanum && Text.isBlank d then some c else none
  | _ => none

/-- The first short flag among the parts between commas and bars. -/
def shortFlag? (flags : List Char) : Option Char :=
  (Text.splitWhere (fun c => c == ',' || c == '|') flags).findSome? fun part =>
    shortLetter? (Text.trim part)

/-- The alternatives of a placeholder, if there are several. -/
def choicesOf (placeholder : Option (List Char)) : List String :=
  match placeholder with
  | some p =>
    if p.contains '|' then
      (Text.splitWhere (· == '|') p).map fun c => String.ofList (Text.trim c)
    else []
  | none => []

/-- A literal that can be a default. -/
def literalDefault? : Value → Option OptionDefault
  | .bool b => some (.bool b)
  | .number n => some (.number n)
  | .str s => some (.str s)
  | _ => none

/-- The first literal behind flags and description. A parser may stand in front of it. -/
def defaultOf? (call : Call) : Option OptionDefault :=
  (call.arguments.drop 2).findSome? literalDefault?

/-- An option without a placeholder is a switch. One with a placeholder takes text, or a number if
its default is one. -/
def typeOf (placeholder : Option (List Char)) (default : Option OptionDefault) : OptionType :=
  match placeholder, default with
  | none, _ => .boolean
  | some _, some (.number _) => .number
  | some _, _ => .string

/-- The string argument at a place, without outer blanks. -/
def stringArgument (call : Call) (i : Nat) : String :=
  ((call.arguments[i]?.bind Value.asString?).getD "").trimBlanks

/-- The option with the given flags, unless they lack a long one. -/
def optionOf? (flags : String) (call : Call) : Option CommandOption := do
  let (name, placeholder) ← longFlag? flags.toList
  let placeholder := placeholder.map Text.trim
  let default := defaultOf? call
  return {
    name := String.ofList name
    alias? := (shortFlag? flags.toList).map fun c => String.ofList [c]
    type := typeOf placeholder default
    default? := default
    description := stringArgument call 1
    choices := choicesOf placeholder }

end DocCatalog.Extract.Flag
