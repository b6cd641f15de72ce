import DocCatalog.Proofs.Text.Trimmed
import DocCatalog.Text.Indent
import Mathlib.Data.List.DropRight
import Mathlib.Data.List.TakeWhile

/-!
# Lines without their indentation

Blanks at the ends of lines and blank lines at the end of a text are taken away, and what is taken away
at one end does not depend on the other.

* **`dropWhile_rdropWhile`**: both ends of a list.
* **`trimStart_trimEnd`**, **`isAllBlank_trimEnd`**, **`isEmpty_trim`**: both ends of a line.
* **`dedent_concat_blank`**: a blank line at the end leaves nothing behind.
* **`dedent_eq_nil_iff`**: every line that is not blank does.
-/

namespace DocCatalog.Text

/-! ## Both ends

The order in which the ends of a text are trimmed does not matter, which is shown for lists once, so
that it serves for characters and for lines. -/

/-- What fits is dropped at both ends: either nothing else is there, or the first and the last
element that do not fit stand between the two. -/
theorem dropWhile_rdropWhile {α : Type} (p : α → Bool) (l : List α) :
    (l.rdropWhile p).dropWhile p = (l.dropWhile p).rdropWhile p := by
  induction l using List.reverseRecOn with
  | nil => rfl
  | append_singleton l x ih =>
      rw [List.rdropWhile_concat, List.dropWhile_append]
      by_cases hx : p x = true
      · rw [if_pos hx, ih, List.dropWhile_cons_of_pos hx, List.dropWhile_nil]
        by_cases hall : (l.dropWhile p).isEmpty = true
        · rw [if_pos hall, List.isEmpty_iff.mp hall]
        · rw [if_neg hall, List.rdropWhile_concat_pos p _ x hx]
      · rw [if_neg hx, List.dropWhile_append, List.dropWhile_cons_of_neg hx]
        by_cases hall : (l.dropWhile p).isEmpty = true
        · rw [if_pos hall, List.rdropWhile_singleton, if_neg hx]
        · rw [if_neg hall, List.rdropWhile_concat_neg p _ x hx]

/-- The two ends of a text can be trimmed in either order. -/
theorem trimStart_trimEnd (s : List Char) : trimStart (trimEnd s) = trim s :=
  dropWhile_rdropWhile isBlank s

/-- Nothing is left of the blank texts only. -/
theorem trimEnd_eq_nil_iff {s : List Char} : trimEnd s = [] ↔ isAllBlank s = true := by
  rw [isAllBlank, List.all_eq_true]
  exact List.rdropWhile_eq_nil_iff

/-- A text is as blank as what is left of it. -/
theorem isAllBlank_trimEnd (s : List Char) : isAllBlank (trimEnd s) = isAllBlank s := by
  rw [Bool.eq_iff_iff, ← trimEnd_eq_nil_iff, ← trimEnd_eq_nil_iff, trimEnd_eq (getLast?_trimEnd s)]

theorem isEmpty_trim (s : List Char) : (trim s).isEmpty = isAllBlank s := by
  rw [Bool.eq_iff_iff, List.isEmpty_iff, ← trimStart_trimEnd, trimStart, List.dropWhile_eq_nil_iff,
    ← List.all_eq_true, ← isAllBlank, isAllBlank_trimEnd]

/-- A carriage return at the end would be trimmed in any case. -/
theorem trimEnd_dropReturn (line : List Char) : trimEnd (dropReturn line) = trimEnd line := by
  unfold dropReturn
  split
  · next hlast =>
      obtain ⟨start, rfl⟩ := List.getLast?_eq_some_iff.mp hlast
      rw [List.dropLast_concat, trimEnd_append_blank (by decide)]
  · rfl

/-! ## Lines

A blank line at the end of some lines is dropped, whatever it is made of. Nothing is left of blank
lines only. -/

/-- In the words of the library, so that its lemmas about both ends apply. -/
theorem dropBlankEnds_eq (lines : List (List Char)) :
    dropBlankEnds lines = (lines.dropWhile isAllBlank).rdropWhile isAllBlank := rfl

/-- One more blank line at the end is dropped with the others. -/
theorem dropBlankEnds_concat {line : List Char} (h : isAllBlank line = true)
    (lines : List (List Char)) : dropBlankEnds (lines ++ [line]) = dropBlankEnds lines := by
  rw [dropBlankEnds_eq, dropBlankEnds_eq, ← dropWhile_rdropWhile, ← dropWhile_rdropWhile,
    List.rdropWhile_concat_pos _ _ line h]

/-- **A blank line at the end leaves nothing behind.** -/
theorem dedent_concat_blank {line : List Char} (h : isAllBlank line = true)
    (lines : List (List Char)) : dedent (lines ++ [line]) = dedent lines := by
  rw [dedent, dedentLines, dropBlankEnds_concat h, ← dedentLines, ← dedent]

/-- Where a line is not blank, the lines that are kept begin with such a line. -/
theorem dropBlankEnds_eq_cons {lines : List (List Char)} {line : List Char} (hmem : line ∈ lines)
    (hline : isAllBlank line = false) :
    ∃ first rest, dropBlankEnds lines = first :: rest ∧ isAllBlank first = false := by
  have hstart : lines.dropWhile isAllBlank ≠ [] := fun hnil => by
    have hall := List.dropWhile_eq_nil_iff.mp hnil line hmem
    rw [hline] at hall
    cases hall
  obtain ⟨first, behind, hfirst⟩ := List.exists_cons_of_ne_nil hstart
  have hblank : isAllBlank first = false := by
    have hhead := List.head?_dropWhile_not isAllBlank lines
    rw [hfirst] at hhead
    simpa using hhead
  rw [dropBlankEnds_eq, hfirst]
  -- the lines that are left at the end are a beginning of these, and the first of these is left
  obtain ⟨dropped, hkept⟩ := List.rdropWhile_prefix isAllBlank (first :: behind)
  cases hleft : (first :: behind).rdropWhile isAllBlank with
  | nil =>
      have hall := List.rdropWhile_eq_nil_iff.mp hleft first List.mem_cons_self
      rw [hblank] at hall
      cases hall
  | cons kept rest =>
      rw [hleft] at hkept
      refine ⟨kept, rest, rfl, ?_⟩
      rw [(List.cons.inj hkept).1, hblank]

/-- Behind the blanks in front of a line that is not blank there is a character. -/
theorem leadingBlanks_lt {line : List Char} (h : isAllBlank line = false) :
    leadingBlanks line < line.length := by
  have hblanks := List.takeWhile_prefix isBlank (l := line)
  refine Nat.lt_of_le_of_ne hblanks.length_le fun hlength => ?_
  have hall := List.takeWhile_eq_self_iff.mp (hblanks.eq_of_length hlength)
  rw [isAllBlank, List.all_eq_true.mpr hall] at h
  cases h

/-- The indentation is a minimum: each line that is not blank has at least that many blanks in
front. -/
theorem indentOf_le {lines : List (List Char)} {line : List Char} (hmem : line ∈ lines)
    (hline : isAllBlank line = false) : indentOf lines ≤ leadingBlanks line := by
  refine List.min?_getD_le_of_mem (List.mem_map_of_mem (List.mem_filter.mpr ⟨hmem, ?_⟩))
  rw [hline]
  rfl

/-- **Every line that is not blank leaves something behind.** -/
theorem dedent_eq_nil_iff {lines : List (List Char)} :
    dedent lines = [] ↔ ∀ line ∈ lines, isAllBlank line = true := by
  constructor
  · intro hnil line hmem
    by_contra hline
    obtain ⟨first, rest, hkept, hfirst⟩ :=
      dropBlankEnds_eq_cons hmem (Bool.eq_false_iff.mpr hline)
    have hindent := indentOf_le (List.mem_cons_self (l := rest)) hfirst
    have hlength := leadingBlanks_lt hfirst
    have hlong : first.drop (indentOf (first :: rest)) ≠ [] := fun h => by
      have := List.drop_eq_nil_iff.mp h
      omega
    rw [dedent, dedentLines, hkept, List.map_cons] at hnil
    -- with one line the text is that line, with more there is at least a line feed
    cases rest with
    | nil => exact hlong hnil
    | cons second rest =>
        rw [List.map_cons, join_cons_cons] at hnil
        exact hlong (List.append_eq_nil_iff.mp (List.append_eq_nil_iff.mp hnil).1).1
  · intro hall
    rw [dedent, dedentLines, dropBlankEnds_eq, List.dropWhile_eq_nil_iff.mpr hall]
    rfl

end DocCatalog.Text
