import DocCatalog.Proofs.Text.Indented
import DocCatalog.Proofs.Text.Visible

/-!
# Relative indentation

Taking away the indentation of lines keeps how they stand to each other. All lines from the first to the
last that is not blank are cut at one column, and no further than the line that stands farthest left
allows.

* **`IsIndent`**, **`indentOf_eq`**: the column at which lines are cut, as the least of their indents.
* **`Framed`**, **`framed_dropBlankEnds`**: lines between blank ones.
* **`IsFlush`**, **`dedentLines_of_isFlush`**, **`isFlush_dedentLines`**: lines that stay as they are.
* **`dropBlankEnds_append`**, **`dedentLines_map_append`**: lines that have the same left.
* **`KeepsIndentation`**, **`dedent_keepsIndentation`**: what is left of any lines.
-/

namespace DocCatalog.Text

variable {lines kept : List (List Char)} {line : List Char} {k : Nat}

/-- `k` is the least number of blanks in front of a line that is not blank. -/
structure IsIndent (k : Nat) (lines : List (List Char)) : Prop where
  reached : ∃ line ∈ lines, isAllBlank line = false ∧ leadingBlanks line = k
  least : ∀ line ∈ lines, isAllBlank line = false → k ≤ leadingBlanks line

/-- The lines begin and end with one that is not blank. -/
structure IsTight (lines : List (List Char)) : Prop where
  first : ∃ line, lines.head? = some line ∧ isAllBlank line = false
  last : ∃ line, lines.getLast? = some line ∧ isAllBlank line = false

/-- `kept` reaches from the first to the last of the lines that is not blank. -/
inductive Framed (kept : List (List Char)) : List (List Char) → Prop where
  | intro {before after : List (List Char)}
      (hbefore : ∀ line ∈ before, isAllBlank line = true)
      (hkept : IsTight kept)
      (hafter : ∀ line ∈ after, isAllBlank line = true) :
      Framed kept (before ++ kept ++ after)

/-- Nothing can be taken away: there are no blank ends, and some line that is not blank begins without
a blank. -/
structure IsFlush (lines : List (List Char)) : Prop where
  tight : IsTight lines
  flush : ∃ line ∈ lines, isAllBlank line = false ∧ leadingBlanks line = 0

/-! ## Indents

The common indentation of some lines is the least one of those that are not blank, so it is reached
by one of them and passed by none below. -/

/-- The minimum is taken over the lines that are not blank, of which there is at least one. -/
theorem isIndent_indentOf (hmem : line ∈ lines) (hline : isAllBlank line = false) :
    IsIndent (indentOf lines) lines := by
  refine ⟨?_, fun _ => indentOf_le⟩
  have hsome : ((lines.filter (!isAllBlank ·)).map leadingBlanks).min?.isSome = true := by
    rw [List.isSome_min?_iff]
    refine List.ne_nil_of_mem (List.mem_map_of_mem (List.mem_filter.mpr ⟨hmem, ?_⟩))
    rw [hline]
    rfl
  obtain ⟨k, hk⟩ := Option.isSome_iff_exists.mp hsome
  have hk' : indentOf lines = k := by rw [indentOf, hk, Option.getD_some]
  obtain ⟨least, hleast, hcount⟩ := List.mem_map.mp (List.min?_mem hk)
  obtain ⟨hmem', hline'⟩ := List.mem_filter.mp hleast
  exact ⟨least, hmem', by simpa using hline', hcount.trans hk'.symm⟩

/-- **Lines have one indent.** -/
theorem IsIndent.indentOf_eq (h : IsIndent k lines) : indentOf lines = k := by
  obtain ⟨line, hmem, hline, hcount⟩ := h.reached
  obtain ⟨line', hmem', hline', hcount'⟩ := (isIndent_indentOf hmem hline).reached
  have hle := indentOf_le hmem hline
  have hge := h.least line' hmem' hline'
  omega

/-! ## Cutting a line

The indentation is cut from every line by its number of characters. A line that is blank may be
shorter than that, or have other blanks behind it. -/

/-- Blanks in front make no difference to whether a line is blank. -/
theorem isAllBlank_append {blanks : List Char} (h : isAllBlank blanks = true) (line : List Char) :
    isAllBlank (blanks ++ line) = isAllBlank line := by
  rw [isAllBlank, List.all_append, ← isAllBlank, h, Bool.true_and, isAllBlank]

/-- Blanks in front are counted with those of the line. -/
theorem leadingBlanks_append {blanks : List Char} (h : isAllBlank blanks = true) (line : List Char) :
    leadingBlanks (blanks ++ line) = blanks.length + leadingBlanks line := by
  rw [leadingBlanks, List.takeWhile_append_of_pos (List.all_eq_true.mp h), List.length_append,
    ← leadingBlanks]

/-- What is cut off a line is blank, since the line has at least as many blanks in front or is blank
itself. -/
theorem isAllBlank_take (h : isAllBlank line = false → k ≤ leadingBlanks line) :
    isAllBlank (line.take k) = true := by
  rw [isAllBlank, List.all_eq_true]
  intro c hc
  cases hline : isAllBlank line with
  | true => exact List.all_eq_true.mp hline c (List.mem_of_mem_take hc)
  | false =>
      -- the cut stays within the run of blanks in front
      have hcut : line.take k <+: line.takeWhile isBlank :=
        List.prefix_of_prefix_length_le (List.take_prefix k line) (List.takeWhile_prefix isBlank)
          ((List.length_take_le k line).trans (h hline))
      exact List.mem_takeWhile_imp (hcut.mem hc)

/-- A line from whose front blanks are cut stays blank or not blank. -/
theorem isAllBlank_drop (h : isAllBlank (line.take k) = true) :
    isAllBlank (line.drop k) = isAllBlank line := by
  rw [← isAllBlank_append h, List.take_append_drop]

/-- As many blanks are left in front as were not cut. -/
theorem leadingBlanks_drop (h : k ≤ leadingBlanks line) :
    leadingBlanks (line.drop k) = leadingBlanks line - k := by
  have hsplit := leadingBlanks_append (isAllBlank_take fun _ => h) (line.drop k)
  have hlength : leadingBlanks line ≤ line.length := (List.takeWhile_sublist isBlank).length_le
  rw [List.take_append_drop, List.length_take] at hsplit
  omega

/-! ## Blank ends

Blank lines are dropped at both ends and nowhere else. -/

/-- **What is kept** reaches from the first to the last line that is not blank. -/
theorem framed_dropBlankEnds (hmem : line ∈ lines) (hline : isAllBlank line = false) :
    Framed (dropBlankEnds lines) lines := by
  obtain ⟨first, rest, hkept, hfirst⟩ := dropBlankEnds_eq_cons hmem hline
  have hne : dropBlankEnds lines ≠ [] := hkept ▸ List.cons_ne_nil first rest
  have hsplit : lines = lines.takeWhile isAllBlank ++ dropBlankEnds lines
      ++ (lines.dropWhile isAllBlank).rtakeWhile isAllBlank := by
    rw [List.append_assoc, dropBlankEnds_eq, List.rdropWhile_append_rtakeWhile,
      List.takeWhile_append_dropWhile]
  have hframed : Framed (dropBlankEnds lines) (lines.takeWhile isAllBlank ++ dropBlankEnds lines
      ++ (lines.dropWhile isAllBlank).rtakeWhile isAllBlank) := by
    refine .intro (fun _ => List.mem_takeWhile_imp) ⟨?_, ?_⟩ (fun _ => List.mem_rtakeWhile_imp)
    · exact ⟨first, by rw [hkept]; rfl, hfirst⟩
    · refine ⟨_, List.getLast?_eq_some_getLast hne, ?_⟩
      exact Bool.eq_false_iff.mpr (List.rdropWhile_last_not isAllBlank _ hne)
  rwa [← hsplit] at hframed

/-- Whatever blank lines stand around some lines, the same is left of them. -/
theorem dropBlankEnds_append {before after : List (List Char)}
    (hbefore : ∀ line ∈ before, isAllBlank line = true)
    (hafter : ∀ line ∈ after, isAllBlank line = true) (lines : List (List Char)) :
    dropBlankEnds (before ++ lines ++ after) = dropBlankEnds lines := by
  -- the blank lines behind go one at a time, from the last one
  induction after using List.reverseRecOn with
  | nil =>
      rw [List.append_nil, dropBlankEnds_eq, dropBlankEnds_eq, List.dropWhile_append_of_pos hbefore]
  | append_singleton after line ih =>
      have hline := hafter line List.mem_concat_self
      rw [← List.append_assoc, dropBlankEnds_concat hline]
      exact ih fun l hl => hafter l (List.mem_append_left _ hl)

/-- Lines that begin and end with one that is not blank are left as they are. -/
theorem IsTight.dropBlankEnds_eq (h : IsTight lines) : dropBlankEnds lines = lines := by
  obtain ⟨first, hhead, hfirst⟩ := h.first
  obtain ⟨last, hlast, hblank⟩ := h.last
  obtain ⟨rest, rfl⟩ := List.head?_eq_some_iff.mp hhead
  rw [Text.dropBlankEnds_eq, List.dropWhile_cons_of_neg (Bool.eq_false_iff.mp hfirst),
    List.rdropWhile_eq_self_iff]
  intro hne hall
  rw [List.getLast?_eq_some_getLast hne] at hlast
  rw [Option.some.inj hlast, hblank] at hall
  cases hall

/-- What is left between the blank ends begins and ends with a line that is not blank. -/
theorem Framed.tight (h : Framed kept lines) : IsTight kept := by
  cases h with
  | intro _ hkept _ => exact hkept

/-- Tight lines are not all blank: the first one is not. -/
theorem IsTight.exists_mem (h : IsTight lines) : ∃ line ∈ lines, isAllBlank line = false := by
  obtain ⟨first, hhead, hfirst⟩ := h.first
  exact ⟨first, List.mem_of_mem_head? hhead, hfirst⟩

/-- The indent is that of the lines that are kept. -/
theorem Framed.isIndent (h : Framed kept lines) : IsIndent (indentOf kept) lines := by
  cases h with
  | @intro before after hbefore hkept hafter =>
      obtain ⟨line, hmem, hline⟩ := hkept.exists_mem
      have hindent := isIndent_indentOf hmem hline
      obtain ⟨least, hleast, hreached⟩ := hindent.reached
      refine ⟨⟨least, by simp [hleast], hreached⟩, fun line hmem hline => ?_⟩
      rcases List.mem_append.mp hmem with hmem | hmem
      · rcases List.mem_append.mp hmem with hmem | hmem
        · cases (hbefore line hmem).symm.trans hline
        · exact hindent.least line hmem hline
      · cases (hafter line hmem).symm.trans hline

/-! ## Lines that stay as they are

Lines with neither blank ends nor a common indentation are a fixed point, and all that is left of
other lines is of this kind. -/

/-- Where no line is dropped and the indentation is zero nothing happens. -/
theorem dedentLines_of_isFlush (h : IsFlush lines) : dedentLines lines = lines := by
  obtain ⟨line, hmem, hline, hcount⟩ := h.flush
  have hindent : indentOf lines = 0 := by
    have hle := indentOf_le hmem hline
    omega
  rw [dedentLines, h.tight.dropBlankEnds_eq, hindent]
  exact List.map_id' lines

/-- Cutting the common indentation off tight lines leaves a line that begins with no blank. -/
theorem isFlush_map_drop (hkept : IsTight kept) (hk : IsIndent k kept) :
    IsFlush (kept.map (·.drop k)) := by
  -- a line stays blank or not blank, so the first, the last and the least one serve again
  have hblank : ∀ line ∈ kept, isAllBlank (line.drop k) = isAllBlank line := fun line hmem =>
    isAllBlank_drop (isAllBlank_take (hk.least line hmem))
  obtain ⟨first, hhead, hfirst⟩ := hkept.first
  obtain ⟨last, htail, hlast⟩ := hkept.last
  obtain ⟨least, hmem, hleast, hcount⟩ := hk.reached
  refine ⟨⟨⟨first.drop k, ?_, ?_⟩, ⟨last.drop k, ?_, ?_⟩⟩, ⟨least.drop k, ?_, ?_, ?_⟩⟩
  · rw [List.head?_map, hhead]
    rfl
  · rw [hblank first (List.mem_of_mem_head? hhead), hfirst]
  · rw [List.getLast?_map, htail]
    rfl
  · rw [hblank last (List.mem_of_mem_getLast? htail), hlast]
  · exact List.mem_map_of_mem hmem
  · rw [hblank least hmem, hleast]
  · rw [leadingBlanks_drop hcount.ge, hcount, Nat.sub_self]

/-- What is left of lines that are not all blank has nothing more to lose. -/
theorem isFlush_dedentLines (hmem : line ∈ lines) (hline : isAllBlank line = false) :
    IsFlush (dedentLines lines) := by
  have htight := (framed_dropBlankEnds hmem hline).tight
  obtain ⟨first, hfirst, hblank⟩ := htight.exists_mem
  exact isFlush_map_drop htight (isIndent_indentOf hfirst hblank)

/-! ## Lines that have the same left

Lines to which the same blanks are added lose them with the rest of their indentation. -/

section Shift

variable {blanks : List Char} (h : isAllBlank blanks = true)

include h

theorem dropBlankEnds_map_append (lines : List (List Char)) :
    dropBlankEnds (lines.map (blanks ++ ·)) = (dropBlankEnds lines).map (blanks ++ ·) := by
  have hblank : isAllBlank ∘ (blanks ++ ·) = isAllBlank := funext (isAllBlank_append h)
  rw [dropBlankEnds, List.dropWhile_map, hblank, ← List.map_reverse, List.dropWhile_map, hblank,
    ← List.map_reverse, ← dropBlankEnds]

/-- Every indent grows by the number of the blanks. -/
theorem IsIndent.map_append (hk : IsIndent k lines) :
    IsIndent (blanks.length + k) (lines.map (blanks ++ ·)) := by
  obtain ⟨least, hmem, hline, hreached⟩ := hk.reached
  refine ⟨⟨_, List.mem_map_of_mem hmem, ?_, ?_⟩, fun line hmem hline => ?_⟩
  · rw [isAllBlank_append h, hline]
  · rw [leadingBlanks_append h, hreached]
  · obtain ⟨own, hown, rfl⟩ := List.mem_map.mp hmem
    rw [isAllBlank_append h] at hline
    have hle := hk.least own hown hline
    rw [leadingBlanks_append h]
    omega

/-- **Blanks in front of all lines** make no difference. -/
theorem dedentLines_map_append (lines : List (List Char)) :
    dedentLines (lines.map (blanks ++ ·)) = dedentLines lines := by
  rw [dedentLines, dedentLines, dropBlankEnds_map_append h, List.map_map]
  by_cases hall : ∀ line ∈ lines, isAllBlank line = true
  · -- no line has an indent, and none is kept
    rw [dropBlankEnds_eq, List.dropWhile_eq_nil_iff.mpr hall]
    rfl
  · simp only [not_forall, Bool.not_eq_true] at hall
    obtain ⟨line, hmem, hline⟩ := hall
    obtain ⟨first, hfirst, hnonblank⟩ := (framed_dropBlankEnds hmem hline).tight.exists_mem
    have hindent := (isIndent_indentOf hfirst hnonblank).map_append h
    rw [hindent.indentOf_eq]
    refine List.map_congr_left fun line _ => ?_
    rw [Function.comp_apply, ← List.drop_drop, List.drop_left]

end Shift

/-! ## What is left

The relation says what becomes of lines without computing it: there is a frame of blank lines, there
is an indent, and the result is the inner lines without it. -/

/-- The lines from the first to the last that is not blank, all cut at the least indent. -/
inductive Dedents (lines : List (List Char)) : List (List Char) → Prop where
  | intro {kept : List (List Char)} {k : Nat} (hkept : Framed kept lines) (hindent : IsIndent k lines)
      (hblank : ∀ line ∈ kept, isAllBlank (line.take k) = true)
      (hflush : IsFlush (kept.map (·.drop k))) :
      Dedents lines (kept.map (·.drop k))

/-- The computed lines are such a result, with the inner lines and their indent as witnesses. -/
theorem dedents_dedentLines (hmem : line ∈ lines) (hline : isAllBlank line = false) :
    Dedents lines (dedentLines lines) := by
  have hframed := framed_dropBlankEnds hmem hline
  obtain ⟨first, hfirst, hnonblank⟩ := hframed.tight.exists_mem
  have hindent := isIndent_indentOf hfirst hnonblank
  exact .intro hframed hframed.isIndent
    (fun line hmem => isAllBlank_take (hindent.least line hmem))
    (isFlush_map_drop hframed.tight hindent)

/-- No line feed stands in a line, so that the text of the result splits into its lines again. -/
theorem splitWhere_dedent (hlines : ∀ line ∈ lines, '\n' ∉ line) (hmem : line ∈ lines)
    (hline : isAllBlank line = false) :
    splitWhere (· == '\n') (dedent lines) = dedentLines lines := by
  obtain ⟨first, hfirst, -⟩ := (isFlush_dedentLines hmem hline).tight.exists_mem
  refine splitWhere_join rfl (List.ne_nil_of_mem hfirst) fun left hleft c hc => beq_false_of_ne ?_
  -- a line break that is left stood in one of the lines
  rintro rfl
  obtain ⟨line, hline, rfl⟩ := List.mem_map.mp hleft
  exact hlines line ((dropBlankEnds_sublist lines).mem hline) (List.mem_of_mem_drop hc)

/-- The lines keep how they stand to each other when their indentation is taken away. -/
structure KeepsIndentation (lines : List (List Char)) : Prop where
  isEmpty_iff : dedent lines = [] ↔ ∀ line ∈ lines, isAllBlank line = true
  dedents : (∃ line ∈ lines, isAllBlank line = false) →
    Dedents lines (splitWhere (· == '\n') (dedent lines))
  idempotent : dedent (splitWhere (· == '\n') (dedent lines)) = dedent lines
  blankEnds : ∀ before after, (∀ line ∈ before, isAllBlank line = true) →
    (∀ line ∈ after, isAllBlank line = true) → dedent (before ++ lines ++ after) = dedent lines
  shift : ∀ blanks, isAllBlank blanks = true → dedent (lines.map (blanks ++ ·)) = dedent lines

/-- **Relative indentation is kept**, whatever the lines. -/
theorem dedent_keepsIndentation (h : ∀ line ∈ lines, '\n' ∉ line) : KeepsIndentation lines := by
  refine ⟨dedent_eq_nil_iff, ?_, ?_, fun before after hbefore hafter => ?_, fun blanks hblanks => ?_⟩
  · rintro ⟨line, hmem, hline⟩
    rw [splitWhere_dedent h hmem hline]
    exact dedents_dedentLines hmem hline
  · by_cases hall : ∀ line ∈ lines, isAllBlank line = true
    · rw [dedent_eq_nil_iff.mpr hall]
      rfl
    · simp only [not_forall, Bool.not_eq_true] at hall
      obtain ⟨line, hmem, hline⟩ := hall
      rw [splitWhere_dedent h hmem hline, dedent,
        dedentLines_of_isFlush (isFlush_dedentLines hmem hline), ← dedent]
  · rw [dedent, dedentLines, dropBlankEnds_append hbefore hafter, ← dedentLines, ← dedent]
  · rw [dedent, dedentLines_map_append hblanks, ← dedent]

/-- Lines with tabs, a no-break space, and blank lines that are shorter and longer than the indent. -/
def tabbedLines : List (List Char) :=
  [[], "\t  if (x) \x7b".toList, "\t".toList, "\t\u00a0   y();".toList, "\t      ".toList,
    "\t \x7d".toList, "  ".toList]

/-- Tabs and a space that does not break count as blanks; the line in the middle that is longer than
the indent keeps what is left of it. -/
theorem dedent_keepsIndentation_tabbed :
    (∀ line ∈ tabbedLines, '\n' ∉ line) ∧ KeepsIndentation tabbedLines
      ∧ dedent tabbedLines = " if (x) \x7b\n\n   y();\n     \n\x7d".toList := by
  have hlines : ∀ line ∈ tabbedLines, '\n' ∉ line := by decide
  exact ⟨hlines, dedent_keepsIndentation hlines, by decide⟩

end DocCatalog.Text
