/-!
# Lines to compare

The lines of a text, each with what ends it, so that the text is all its lines in a row.
-/

namespace DocCatalog.Diff

/-- A line feed, a carriage return, or both in this order end a line. -/
def lines : List Char → List (List Char)
  | [] => []
  | '\r' :: '\n' :: r => ['\r', '\n'] :: lines r
  | c :: r =>
    if c == '\n' || c == '\r' then [c] :: lines r
    else
      match lines r with
      | [] => [[c]]
      | l :: ls => (c :: l) :: ls

/-- Whether something ends the line. -/
def isEnded (line : List Char) : Bool :=
  line.getLast? == some '\n' || line.getLast? == some '\r'

/-- Nothing is lost between lines. -/
theorem flatten_lines (s : List Char) : (lines s).flatten = s := by
  fun_induction lines s <;> simp_all

end DocCatalog.Diff
