import DocCatalog.Text.Indent
import Mathlib.Data.List.Flatten

/-!
# Characters that are kept

What trimming, joining and removing indentation leave of a text has no visible characters but those of
the text, in their order.

* **`visible`**, **`Within`**: the characters of a text that are no blanks, and texts that have no others
  than another text.
* **`within_join`**, **`within_dedent`**: lines that are put together.
* **`lines_sublist`**: the lines of a text.
-/

namespace DocCatalog.Text

/-- The characters that are no blanks. -/
def visible (s : List Char) : List Char := s.filter (!isBlank ·)

/-- The visible characters are among those of the other text, in their order. -/
def Within (s t : List Char) : Prop := (visible s).Sublist (visible t)

variable {s t u : List Char} {ls : List (List Char)}

/-- The characters that are no blanks are kept one by one, so the two parts can be looked at
separately. -/
theorem visible_append (s t : List Char) : visible (s ++ t) = visible s ++ visible t :=
  List.filter_append s t

namespace Within

/-- What comes of a text by leaving out characters is within it. -/
theorem of_sublist (h : s.Sublist t) : Within s t := h.filter _

theorem refl (s : List Char) : Within s s := of_sublist (List.Sublist.refl s)

theorem trans (h : Within s t) (h' : Within t u) : Within s u := List.Sublist.trans h h'

theorem append {s' t' : List Char} (h : Within s t) (h' : Within s' t') :
    Within (s ++ s') (t ++ t') := by
  unfold Within
  rw [visible_append, visible_append]
  exact List.Sublist.append h h'

/-- What is made of every part is within the parts. -/
theorem flatMap {α : Type} {f g : α → List Char} {l : List α} (h : ∀ a ∈ l, Within (f a) (g a)) :
    Within (l.flatMap f) (l.flatMap g) := by
  induction l with
  | nil => exact refl []
  | cons a l ih =>
      rw [List.flatMap_cons, List.flatMap_cons]
      exact (h a List.mem_cons_self).append (ih fun b hb => h b (List.mem_cons_of_mem a hb))

/-- Lines that are changed one by one are within the lines that they were. -/
theorem flatten_map {f : List Char → List Char} (h : ∀ l ∈ ls, Within (f l) l) :
    Within (ls.map f).flatten ls.flatten := by
  rw [← List.flatMap_def, ← List.flatMap_id' (L := ls)]
  exact flatMap h

/-- The visible characters are characters of the other text. -/
theorem visible_sublist (h : Within s t) : (visible s).Sublist t := List.Sublist.trans h List.filter_sublist

end Within

/-! ## One text

Trimming takes off characters and adds none. -/

/-- The end is trimmed by reversing the text, which keeps what is a part of it. -/
theorem trimEnd_sublist (s : List Char) : (trimEnd s).Sublist s := by
  have hreversed := List.reverse_sublist.mpr (List.dropWhile_sublist isBlank (l := s.reverse))
  rwa [List.reverse_reverse] at hreversed

theorem trim_sublist (s : List Char) : (trim s).Sublist s :=
  (trimEnd_sublist (trimStart s)).trans (List.dropWhile_sublist isBlank)

/-! ## Lines

Lines are put together with separators, which are blanks, and taken out of a text by leaving the
separators out. -/

/-- Blanks that separate joined texts are not visible. -/
theorem within_join {sep : List Char} (h : sep.all isBlank = true) (ls : List (List Char)) :
    Within (join sep ls) ls.flatten := by
  have hsep : visible sep = [] := List.filter_eq_nil_iff.mpr fun c hc => by
    simp [List.all_eq_true.mp h c hc]
  induction ls with
  | nil => exact Within.refl []
  | cons a ls ih =>
      cases ls with
      | nil =>
          rw [List.flatten_singleton]
          exact Within.refl a
      | cons b ls =>
          have hjoin : visible (join sep (a :: b :: ls)) = visible (a ++ join sep (b :: ls)) := by
            show visible (a ++ sep ++ join sep (b :: ls)) = _
            rw [visible_append, visible_append, visible_append, hsep, List.append_nil]
          rw [Within, hjoin, List.flatten_cons]
          exact (Within.refl a).append ih

/-- Whole lines are dropped here. -/
theorem dropBlankEnds_sublist (ls : List (List Char)) : (dropBlankEnds ls).Sublist ls := by
  have hend := List.reverse_sublist.mpr
    (List.dropWhile_sublist isAllBlank (l := (ls.dropWhile isAllBlank).reverse))
  rw [List.reverse_reverse] at hend
  exact hend.trans (List.dropWhile_sublist isAllBlank)

/-- Of the lines that are left some blanks are cut, and line feeds are put between them. -/
theorem within_dedent (ls : List (List Char)) : Within (dedent ls) ls.flatten := by
  have hlines : Within (dedentLines ls).flatten (dropBlankEnds ls).flatten :=
    Within.flatten_map fun l _ => Within.of_sublist (List.drop_sublist _ l)
  exact (within_join (by decide) _).trans
    (hlines.trans (Within.of_sublist (dropBlankEnds_sublist ls).flatten))

/-- At most the last character is dropped. -/
theorem dropReturn_sublist (line : List Char) : (dropReturn line).Sublist line := by
  unfold dropReturn
  split
  · exact List.dropLast_sublist line
  · exact List.Sublist.refl line

/-- Lines that each lose characters lose them as one text. -/
theorem flatten_map_sublist {f : List Char → List Char} (h : ∀ l, (f l).Sublist l)
    (ls : List (List Char)) : (ls.map f).flatten.Sublist ls.flatten := by
  rw [← List.flatMap_def, ← List.flatMap_id' (L := ls)]
  exact List.Sublist.flatMap_right ls fun l _ => h l

/-- The separators are left out and nothing else. -/
theorem splitWhere_sublist (p : Char → Bool) (s : List Char) : (splitWhere p s).flatten.Sublist s := by
  induction s with
  | nil => exact List.Sublist.refl []
  | cons c s ih =>
      rw [splitWhere]
      split
      · exact ih.trans (List.sublist_cons_self c s)
      · obtain ⟨piece, pieces, hsplit⟩ := List.exists_cons_of_ne_nil (splitWhere_ne_nil p s)
        rw [hsplit] at ih ⊢
        exact ih.cons_cons c

/-- **The lines of a text** hold its characters, in their order. -/
theorem lines_sublist (s : List Char) : (lines s).flatten.Sublist s := by
  refine List.Sublist.trans ?_ (splitWhere_sublist (· == '\n') s)
  unfold lines
  split
  · exact List.nil_sublist _
  · next last ended hreverse =>
      have hlast : (if last.isEmpty then [] else [last]).flatten = last := by
        cases last <;> simp
      rw [List.reverse_eq_cons_iff.mp hreverse, List.flatten_append, List.flatten_append, hlast,
        List.flatten_singleton, ← List.map_reverse]
      exact (flatten_map_sublist dropReturn_sublist ended.reverse).append_right last

end DocCatalog.Text
