/-!
# Splitting and joining

Cuts texts into pieces and puts pieces together, on lists of characters.

* `splitWhere`: the pieces between separators; `n` separators leave `n + 1` pieces.
* `lines`: the lines of a text without what ends them.
* `join`: pieces with a separator between them.
-/

namespace DocCatalog.Text

/-- The pieces between the characters that satisfy `p`. -/
def splitWhere (p : Char → Bool) : List Char → List (List Char)
  | [] => [[]]
  | c :: r =>
    if p c then [] :: splitWhere p r
    else
      match splitWhere p r with
      | [] => [[c]]
      | piece :: pieces => (c :: piece) :: pieces

/-- A line that was ended by a line feed, without the carriage return in front of that. -/
def dropReturn (line : List Char) : List Char :=
  match line.getLast? with
  | some '\r' => line.dropLast
  | _ => line

/-- The lines of a text. A line feed ends a line, with a carriage return in front of it or not; what
follows the last line feed is a line if it is not empty. -/
def lines (s : List Char) : List (List Char) :=
  match (splitWhere (· == '\n') s).reverse with
  | [] => []
  | last :: ended =>
    (ended.map dropReturn).reverse ++ (if last.isEmpty then [] else [last])

/-- The pieces with `sep` between them. -/
def join (sep : List Char) : List (List Char) → List Char
  | [] => []
  | [piece] => piece
  | piece :: pieces => piece ++ sep ++ join sep pieces

/-- What follows `start` in a text that begins with it. -/
def afterStart? (start s : List Char) : Option (List Char) :=
  if start.isPrefixOf s then some (s.drop start.length) else none

/-- What precedes `stop` in a text that ends with it. -/
def beforeEnd? (stop s : List Char) : Option (List Char) :=
  if stop.isSuffixOf s then some (s.take (s.length - stop.length)) else none

/-- What follows `start`, or the text itself if it does not begin so. -/
def dropStart (start s : List Char) : List Char := (afterStart? start s).getD s

/-- What precedes `stop`, or the text itself if it does not end so. -/
def dropEnd (stop s : List Char) : List Char := (beforeEnd? stop s).getD s

/-- Whether `part` stands somewhere in the text. -/
def contains (part : List Char) : List Char → Bool
  | [] => part.isEmpty
  | c :: r => part.isPrefixOf (c :: r) || contains part r

@[simp] theorem splitWhere_nil (p : Char → Bool) : splitWhere p [] = [[]] := rfl

theorem splitWhere_ne_nil (p : Char → Bool) (s : List Char) : splitWhere p s ≠ [] := by
  induction s with
  | nil => simp
  | cons c r ih =>
    simp only [splitWhere]
    split
    · simp
    · split <;> simp

end DocCatalog.Text
