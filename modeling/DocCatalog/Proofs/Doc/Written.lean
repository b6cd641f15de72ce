import DocCatalog.Doc.Comment
import DocCatalog.Proofs.Text.Trimmed

/-!
# Comments as they are written

A comment is written line by line, each line behind a star, and the lines are read back as they were,
but for a carriage return at their ends.

* **`WrittenTag`**, **`writtenLines`**: the lines of a description and of tags.
* **`writeComment`**: a comment with the given lines.
* **`bodyLines_writeComment`**: the lines are read back, between the empty ones of the delimiters.
-/

namespace DocCatalog.Doc

/-- A tag as it is written: its name, what stands behind that, and the lines below. -/
structure WrittenTag where
  name : Line
  first : Line
  body : List Line

/-- The line that a tag begins with. -/
def WrittenTag.head (t : WrittenTag) : Line := '@' :: (t.name ++ ' ' :: t.first)

def WrittenTag.lines (t : WrittenTag) : List Line := t.head :: t.body

/-- The lines of a description, then those of the tags. -/
def writtenLines (description : List Line) (tags : List WrittenTag) : List Line :=
  description ++ tags.flatMap WrittenTag.lines

/-- A line as it stands in a comment. -/
def behindStar (line : Line) : Line := ' ' :: '*' :: ' ' :: line

/-- The comment with the given lines, each behind a star. -/
def writeComment (lines : List Line) : List Char :=
  "/**\n".toList ++ (lines.flatMap (behindStar · ++ ['\n']) ++ " */".toList)

/-! ## Delimiters

A comment is written with a line for each delimiter, so that no line of its text touches one. -/

theorem dropEnd_append (s stop : List Char) : Text.dropEnd stop (s ++ stop) = s := by
  have hsuffix : stop.isSuffixOf (s ++ stop) = true :=
    List.isSuffixOf_iff_suffix.mpr (List.suffix_append s stop)
  have hlength : (s ++ stop).length - stop.length = s.length := by
    rw [List.length_append]
    omega
  rw [Text.dropEnd, Text.beforeEnd?, if_pos hsuffix, Option.getD_some, hlength, List.take_left]

/-- A comment begins and ends with its delimiters, so that there is nothing to trim off. -/
theorem trimmed_writeComment (lines : List Line) : Text.Trimmed (writeComment lines) := by
  have hopen : "/**\n".toList = ['/', '*', '*', '\n'] := by decide
  have hclose : " */".toList = [' ', '*', '/'] := by decide
  rw [writeComment, hopen, hclose]
  refine ⟨fun c hc => ?_, fun c hc => ?_⟩
  · cases hc
    decide
  · rw [← List.append_assoc, List.getLast?_append] at hc
    cases hc
    decide

/-! ## Lines

A star and a space stand in front of each line, and are all that is taken off when the line is read
back. -/

theorem dropReturn_cons {c : Char} (hc : c ≠ '\r') (line : Line) :
    Text.dropReturn (c :: line) = c :: Text.dropReturn line := by
  cases line with
  | nil =>
      have hlast : [c].getLast? ≠ some '\r' := fun h => hc (Option.some.inj h)
      unfold Text.dropReturn
      split
      · next h => exact absurd h hlast
      · rfl
  | cons d line =>
      unfold Text.dropReturn
      rw [List.getLast?_cons_cons]
      split
      · rfl
      · rfl

/-- **The lines of a comment are read back**, between the empty ones of its delimiters. -/
theorem bodyLines_writeComment {lines : List Line} (h : ∀ l ∈ lines, '\n' ∉ l) :
    bodyLines (writeComment lines) = [] :: (lines.map Text.dropReturn ++ [[' ']]) := by
  let ended : List Char := ([] :: lines.map behindStar).flatMap (· ++ ['\n']) ++ [' ']
  have hcomment : writeComment lines = '/' :: '*' :: '*' :: (ended ++ ['*', '/']) := by
    have hopen : "/**\n".toList = ['/', '*', '*', '\n'] := by decide
    have hclose : " */".toList = [' ', '*', '/'] := by decide
    simp only [writeComment, ended, hopen, hclose, List.flatMap_cons, List.flatMap_map,
      List.append_assoc, List.cons_append, List.nil_append]
  -- neither delimiter is taken for part of the other
  have hinner : bodyLines (writeComment lines) = (Text.lines ended).map stripStar := by
    rw [bodyLines, (trimmed_writeComment lines).trim_eq, hcomment]
    show (Text.lines (Text.dropEnd ['*', '/'] (ended ++ ['*', '/']))).map stripStar = _
    rw [dropEnd_append]
  have hlines : Text.lines ended
      = ([] :: lines.map behindStar).map Text.dropReturn ++ [[' ']] := by
    refine Text.lines_ended ?_ (by decide)
    intro l hl
    rcases List.mem_cons.mp hl with rfl | hmem
    · exact List.not_mem_nil
    · obtain ⟨line, hline, rfl⟩ := List.mem_map.mp hmem
      have hbreak := h line hline
      simp [behindStar, hbreak]
  have hstrip : (stripStar ∘ Text.dropReturn) ∘ behindStar = Text.dropReturn := by
    funext line
    show stripStar (Text.dropReturn (behindStar line)) = Text.dropReturn line
    rw [behindStar, dropReturn_cons (by decide), dropReturn_cons (by decide),
      dropReturn_cons (by decide)]
    rfl
  rw [hinner, hlines, List.map_append, List.map_cons, List.map_cons, List.map_map, List.map_map,
    hstrip]
  rfl

end DocCatalog.Doc
