import DocCatalog.Text.Blank
import DocCatalog.Text.Split
/-!
# Indentation

* `dropBlankEnds`: the lines from the first to the last that is not blank.
* `indentOf`: the number of blanks that all lines but the blank ones begin with.
* `dedent`: these lines without that indentation.
-/

namespace DocCatalog.Text

/-- The lines from the first to the last that is not blank. -/
def dropBlankEnds (lines : List (List Char)) : List (List Char) :=
  ((lines.dropWhile isAllBlank).reverse.dropWhile isAllBlank).reverse

/-- The number of blanks in front of a line. -/
def leadingBlanks (line : List Char) : Nat := (line.takeWhile isBlank).length

/-- The least number of blanks in front of a line that is not blank, or 0 if there is none. -/
def indentOf (lines : List (List Char)) : Nat :=
  (((lines.filter (!isAllBlank ·)).map leadingBlanks).min?).getD 0

/-- The lines from the first to the last that is not blank, without their common indentation. -/
def dedentLines (lines : List (List Char)) : List (List Char) :=
  let kept := dropBlankEnds lines
  kept.map (·.drop (indentOf kept))

/-- Lines without blank ends and common indentation, as one text. -/
def dedent (lines : List (List Char)) : List Char := join ['\n'] (dedentLines lines)

end DocCatalog.Text
