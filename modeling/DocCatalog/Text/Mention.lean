import DocCatalog.Text.Word
import DocCatalog.Text.Case
/-!
# Mentions

Whether a text mentions a name as a whole word, whatever the case: an occurrence of the name with a
word boundary at both of its ends.
-/

namespace DocCatalog.Text

/-- What follows the name in a text that begins with it, whatever the case. -/
def afterName? : (name text : List Char) → Option (List Char)
  | [], text => some text
  | _ :: _, [] => none
  | a :: name, b :: text => if foldCase a == foldCase b then afterName? name text else none

/-- Whether the name stands at the head of `text` as a whole word. `before` is the character in
front of the text. -/
def mentionedHere (name : List Char) (before : Option Char) (text : List Char) : Bool :=
  isBoundary before text.head? &&
    match afterName? name text with
    | none => false
    | some rest => isBoundary ((before :: (text.take name.length).map some).getLast?.getD none)
        rest.head?

/-- Whether the name stands somewhere in `text` as a whole word. -/
def mentionedFrom (name : List Char) (before : Option Char) : List Char → Bool
  | [] => mentionedHere name before []
  | c :: text => mentionedHere name before (c :: text) || mentionedFrom name (some c) text

/-- Whether the text mentions the name as a whole word. -/
def mentions (name text : List Char) : Bool := mentionedFrom name none text

end DocCatalog.Text
