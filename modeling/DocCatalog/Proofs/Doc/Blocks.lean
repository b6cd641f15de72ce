import DocCatalog.Proofs.Doc.Sections
import Mathlib.Data.List.Forall2

/-!
# Tags are read back as blocks

Every tag of a comment that is written line by line is read as a block with the tag's name and lines.
Only the last one may have one line more, which is what is left of that of the closing delimiter.

* **`WrittenTag.IsReadable`**: tags of which no line is taken for that of another tag.
* **`WrittenTag.ReadAs`**: a tag and the block that it is read as.
* **`structureOf_tagLines`**, **`structureOf_writtenLines`**: the lines of tags and those of a comment.
-/

namespace DocCatalog.Doc

/-- The tag has a name, and no line in it is taken for that of another tag. -/
structure WrittenTag.IsReadable (t : WrittenTag) : Prop where
  name : IsTagWord t.name
  first : Text.Trimmed t.first
  oneLine : '\n' ∉ t.first
  body : IsSection t.body

instance : DecidablePred WrittenTag.IsReadable := fun t =>
  decidable_of_iff (IsTagWord t.name ∧ Text.Trimmed t.first ∧ '\n' ∉ t.first ∧ IsSection t.body)
    ⟨fun ⟨hname, hfirst, hone, hbody⟩ => ⟨hname, hfirst, hone, hbody⟩,
      fun h => ⟨h.name, h.first, h.oneLine, h.body⟩⟩

/-- What is left of the line of the closing delimiter: nothing if a tag before it has taken it. -/
def IsClosing (lines : List Line) : Prop := lines = [] ∨ lines = [[' ']]

/-- The block has the name and the lines of the tag, but for carriage returns at their ends. It may
have taken the line of the closing delimiter. -/
structure WrittenTag.ReadAs (t : WrittenTag) (b : TagBlock) : Prop where
  name : b.name = t.name
  lines : ∃ closing, IsClosing closing
    ∧ b.lines = t.first :: (t.body.map Text.dropReturn ++ closing)

namespace WrittenTag.IsReadable

variable {t : WrittenTag}

theorem tagLine?_head (h : t.IsReadable) :
    tagLine? (Text.trim (Text.dropReturn t.head)) = some (t.name, t.first) := by
  rw [Text.trim_dropReturn]
  exact tagLine?_trim h.name h.first h.oneLine

theorem oneLine_lines (h : t.IsReadable) : ∀ l ∈ t.lines, '\n' ∉ l := by
  intro l hl
  rcases List.mem_cons.mp hl with rfl | hbody
  · have hname : '\n' ∉ t.name := fun hmem => by
      have hblank := isBlank_of_isTagChar (h.name.chars '\n' hmem)
      revert hblank
      decide
    have hfirst := h.oneLine
    simp [WrittenTag.head, hname, hfirst]
  · exact h.body.oneLine l hbody

end WrittenTag.IsReadable

/-- **The lines of tags are read back**, one tag after the other. -/
theorem structureOf_tagLines {tags : List WrittenTag} (h : ∀ t ∈ tags, t.IsReadable) :
    let read := structureOf false ((tags.flatMap WrittenTag.lines).map Text.dropReturn ++ [[' ']])
    IsClosing read.1 ∧ List.Forall₂ WrittenTag.ReadAs tags read.2 := by
  induction tags with
  | nil => exact ⟨Or.inr (by decide), .nil⟩
  | cons t tags ih =>
      have ht := h t List.mem_cons_self
      obtain ⟨hclosing, hrest⟩ := ih fun u hu => h u (List.mem_cons_of_mem t hu)
      have hlines : ((t :: tags).flatMap WrittenTag.lines).map Text.dropReturn ++ [[' ']]
          = Text.dropReturn t.head :: (t.body.map Text.dropReturn
            ++ ((tags.flatMap WrittenTag.lines).map Text.dropReturn ++ [[' ']])) := by
        rw [List.flatMap_cons, List.map_append, List.append_assoc, WrittenTag.lines, List.map_cons,
          List.cons_append]
      generalize (tags.flatMap WrittenTag.lines).map Text.dropReturn ++ [[' ']] = rest at *
      have hbody := structureOf_section ht.body.closes.dropReturn rest
      rw [hlines, structureOf_tagLine ht.tagLine?_head, hbody]
      -- the lines in front of the next tag belong to this one
      exact ⟨Or.inl rfl, .cons ⟨rfl, _, hclosing, rfl⟩ hrest⟩

section Written

variable {description : List Line} {tags : List WrittenTag}

theorem oneLine_writtenLines (hsection : IsSection description) (htags : ∀ t ∈ tags, t.IsReadable) :
    ∀ l ∈ writtenLines description tags, '\n' ∉ l := by
  intro l hl
  rcases List.mem_append.mp hl with hdescription | htag
  · exact hsection.oneLine l hdescription
  · obtain ⟨t, ht, hline⟩ := List.mem_flatMap.mp htag
    exact (htags t ht).oneLine_lines l hline

/-- **The structure of a comment is read back**, with the line of the opening delimiter in front of the
description and what is left of that of the closing one behind it. -/
theorem structureOf_writtenLines (hsection : IsSection description)
    (htags : ∀ t ∈ tags, t.IsReadable) :
    ∃ closing blocks, IsClosing closing ∧ List.Forall₂ WrittenTag.ReadAs tags blocks
      ∧ structureOf false (bodyLines (writeComment (writtenLines description tags)))
        = ([] :: (description.map Text.dropReturn ++ closing), blocks) := by
  have hbody : bodyLines (writeComment (writtenLines description tags))
      = [] :: (description.map Text.dropReturn
        ++ ((tags.flatMap WrittenTag.lines).map Text.dropReturn ++ [[' ']])) := by
    rw [bodyLines_writeComment (oneLine_writtenLines hsection htags), writtenLines, List.map_append,
      List.append_assoc]
  obtain ⟨hclosing, hblocks⟩ := structureOf_tagLines htags
  generalize (tags.flatMap WrittenTag.lines).map Text.dropReturn ++ [[' ']] = rest at *
  refine ⟨_, _, hclosing, hblocks, ?_⟩
  have hopening : isTagShape (Text.trim []) = false := by decide
  rw [hbody, structureOf_cons fun _ => hopening]
  show ([] :: (structureOf false _).1, (structureOf false _).2) = _
  rw [structureOf_section hsection.closes.dropReturn]

end Written

end DocCatalog.Doc
