import DocCatalog.Proofs.Doc.Blocks
import Mathlib.Data.List.Infix

/-!
# Comments are read back

A comment that is written line by line says what its lines say: the description, and every tag with the
lines below it, up to the blanks at the ends of the lines. The fences, the stars in front of the lines
and the line of the closing delimiter leave nothing behind.

* **`WrittenTag.IsProper`**: tags that can be read back.
* **`flattenLinks_of_unlinked`**: a text without links stays as it is.
* **`descriptionText_eq`**, **`tagValue_eq`**: what is said by lines without links.
* **`structureOf_written`**: what the structure of a comment says.
* **`parse_written`**: the round trip.
-/

namespace DocCatalog.Doc

/-- No line has an inline link in it. -/
def Unlinked (lines : List Line) : Prop := ∀ l ∈ lines, ¬ ['{', '@'] <:+: l

instance (lines : List Line) : Decidable (Unlinked lines) :=
  inferInstanceAs (Decidable (∀ l ∈ lines, ¬ ['{', '@'] <:+: l))

/-- The tag has a name, and nothing in it is taken for a part of another tag or for a link. -/
structure WrittenTag.IsProper (t : WrittenTag) : Prop where
  name : IsTagName t.name
  first : Text.Trimmed t.first
  oneLine : '\n' ∉ t.first
  body : IsSection t.body
  unlinked : Unlinked (t.first :: t.body)

instance : DecidablePred WrittenTag.IsProper := fun t =>
  decidable_of_iff
    (IsTagName t.name ∧ Text.Trimmed t.first ∧ '\n' ∉ t.first ∧ IsSection t.body
      ∧ Unlinked (t.first :: t.body))
    ⟨fun ⟨hname, hfirst, hone, hbody, hlinks⟩ => ⟨hname, hfirst, hone, hbody, hlinks⟩,
      fun h => ⟨h.name, h.first, h.oneLine, h.body, h.unlinked⟩⟩

/-! ## Texts without links

Links begin with a brace and a sign, so a text without the two side by side stays as it is. -/

/-- No link begins where these do not stand. -/
theorem parseLink?_of_not_begins {s : List Char} (h : ¬ ['{', '@'] <+: s) : parseLink? s = none := by
  unfold parseLink?
  split
  · next r => exact absurd ⟨r, rfl⟩ h
  · rfl

/-- A text without links stays as it is. -/
theorem flattenLinks_of_unlinked {s : List Char} (h : ¬ ['{', '@'] <:+: s) : flattenLinks s = s := by
  have hgo : ∀ fuel, flattenLinks.go fuel s = s := by
    intro fuel
    induction s generalizing fuel with
    | nil => cases fuel <;> rfl
    | cons c s ih =>
        cases fuel with
        | zero => rfl
        | succ fuel =>
            have hnone := parseLink?_of_not_begins fun hup => h hup.isInfix
            have hrest := ih (fun hin => h (List.infix_cons hin)) fuel
            rw [flattenLinks.go, hnone]
            exact congrArg (c :: ·) hrest
  exact hgo s.length

namespace Unlinked

variable {lines : List Line}

/-- Trimmed lines have no links either. -/
theorem map_trim (h : Unlinked lines) : Unlinked (lines.map Text.trim) := by
  intro l hl hin
  obtain ⟨line, hline, rfl⟩ := List.mem_map.mp hl
  exact h line hline (hin.trans (Text.trim_infix line))

/-- Joining lines makes no link. -/
theorem join {c : Char} (hbrace : c ≠ '{') (hat : c ≠ '@') (h : Unlinked lines) :
    ¬ ['{', '@'] <:+: Text.join [c] lines := by
  intro hin
  obtain ⟨l, hl, hlink⟩ := Text.infix_of_join hbrace hat hin
  exact h l hl hlink

end Unlinked

/-! ## What is said by lines

The description and the values of tags are put together from lines. What the writing adds to lines
is blank, so that it is trimmed off again. -/

/-- The lines of a description that say something: those that are not blank and no markers. -/
def spokenLines (lines : List Line) : List Line :=
  (lines.map Text.trim).filter fun l => !l.isEmpty && !isFence l

/-- Carriage returns are trimmed off. -/
theorem map_trim_dropReturn (lines : List Line) :
    (lines.map Text.dropReturn).map Text.trim = lines.map Text.trim := by
  rw [List.map_map]
  exact List.map_congr_left fun l _ => Text.trim_dropReturn l

/-- What is left of the closing line says nothing. -/
theorem spokenLines_append {closing : List Line} (h : IsClosing closing) (lines : List Line) :
    spokenLines (lines.map Text.dropReturn ++ closing) = spokenLines lines := by
  have hclosing : spokenLines closing = [] := by
    rcases h with rfl | rfl
    · rfl
    · decide
  rw [spokenLines, List.map_append, List.filter_append, map_trim_dropReturn, ← spokenLines,
    ← spokenLines, hclosing, List.append_nil]

/-- **A description says its lines**, one behind the other. -/
theorem descriptionText_eq {d : DocComment} (h : Unlinked (spokenLines d.description)) :
    d.descriptionText = String.ofList (Text.join [' '] (spokenLines d.description)) := by
  have hspoken : ∀ l ∈ spokenLines d.description, Text.Trimmed l ∧ l ≠ [] := by
    intro l hl
    obtain ⟨hmem, hkept⟩ := List.mem_filter.mp hl
    obtain ⟨line, -, rfl⟩ := List.mem_map.mp hmem
    refine ⟨Text.trimmed_trim line, fun hnil => ?_⟩
    rw [hnil] at hkept
    cases hkept
  have hjoined := h.join (show ' ' ≠ '{' by decide) (by decide)
  rw [DocComment.descriptionText, ← spokenLines, flattenLinks_of_unlinked hjoined,
    (Text.trimmed_join hspoken).1.trim_eq]

/-- **A tag says its lines**, one below the other. -/
theorem tagValue_eq {lines : List Line} (h : Unlinked lines) :
    DocComment.tagValue lines = Text.trim (Text.join ['\n'] (lines.map Text.trim)) := by
  have hjoined := h.map_trim.join (show '\n' ≠ '{' by decide) (by decide)
  have htrimmed : ¬ ['{', '@'] <:+: Text.trim (Text.join ['\n'] (lines.map Text.trim)) :=
    fun hin => hjoined (hin.trans (Text.trim_infix _))
  rw [DocComment.tagValue, flattenLinks_of_unlinked htrimmed, (Text.trimmed_trim _).trim_eq]

theorem tagValue_append {closing : List Line} (h : IsClosing closing) (first : Line)
    (body : List Line) :
    DocComment.tagValue (first :: (body.map Text.dropReturn ++ closing))
      = DocComment.tagValue (first :: body) := by
  have hbody : (first :: body.map Text.dropReturn).map Text.trim = (first :: body).map Text.trim := by
    rw [List.map_cons, map_trim_dropReturn, List.map_cons]
  rw [DocComment.tagValue, DocComment.tagValue, ← List.cons_append, List.map_append, hbody]
  rcases h with rfl | rfl
  · rw [List.map_nil, List.append_nil]
  · -- the last line is blank, and so is the line break in front of it
    have hlines : (first :: body).map Text.trim ≠ [] := List.cons_ne_nil _ _
    have hblank : [[' ']].map Text.trim = [[]] := by decide
    rw [hblank, Text.join_concat_nil _ hlines, Text.trim_append_blank (by decide)]

/-! ## The lines of tags

A tag is read as a block, and a block gives a tag. -/

/-- What the lines of a tag say. -/
def TagBlock.toTag (b : TagBlock) : Tag :=
  ⟨String.ofList b.name, String.ofList (DocComment.tagValue b.lines)⟩

/-- What a tag is written to say. -/
def WrittenTag.toTag (t : WrittenTag) : Tag where
  name := String.ofList t.name
  value := String.ofList (Text.trim (Text.join ['\n'] ((t.first :: t.body).map Text.trim)))

/-- Proper tags can be read. -/
theorem WrittenTag.IsProper.isReadable {t : WrittenTag} (h : t.IsProper) : t.IsReadable :=
  ⟨h.name.isTagWord, h.first, h.oneLine, h.body⟩

/-- **The block of a tag** gives this tag. -/
theorem toTag_of_readAs {t : WrittenTag} {b : TagBlock} (h : t.ReadAs b)
    (hlinks : Unlinked (t.first :: t.body)) : b.toTag = t.toTag := by
  obtain ⟨hname, closing, hclosing, hlines⟩ := h
  rw [TagBlock.toTag, hname, hlines, tagValue_append hclosing, tagValue_eq hlinks, WrittenTag.toTag]

/-! ## Comments

All lines of a comment, read back together. -/

section Written

variable {description : List Line} {tags : List WrittenTag}

/-- The structure of a comment says what its tags do. -/
theorem structureOf_written (hsection : IsSection description) (htags : ∀ t ∈ tags, t.IsProper) :
    ∃ closing blocks, IsClosing closing ∧ blocks.map TagBlock.toTag = tags.map WrittenTag.toTag
      ∧ structureOf false (bodyLines (writeComment (writtenLines description tags)))
        = ([] :: (description.map Text.dropReturn ++ closing), blocks) := by
  obtain ⟨closing, blocks, hclosing, hblocks, hread⟩ :=
    structureOf_writtenLines hsection fun t ht => (htags t ht).isReadable
  refine ⟨closing, blocks, hclosing, ?_, hread⟩
  have hsame : List.Forall₂ (fun t b => t.toTag = TagBlock.toTag b) tags blocks := by
    refine ((List.forall₂_and_left tags blocks).mpr ⟨htags, hblocks⟩).imp ?_
    rintro t b ⟨ht, hb⟩
    exact (toTag_of_readAs hb ht.unlinked).symm
  rw [← List.forall₂_map_right_iff, ← List.forall₂_map_left_iff, List.forall₂_eq_eq_eq] at hsame
  exact hsame.symm

/-- **A comment is read back.** Its description says its lines one behind the other, without blank
lines and fences, and its tags say theirs. -/
theorem parse_written (hsection : IsSection description) (hlinks : Unlinked description)
    (htags : ∀ t ∈ tags, t.IsProper) :
    let doc := DocComment.parse (String.ofList (writeComment (writtenLines description tags)))
    doc.descriptionText = String.ofList (Text.join [' '] (spokenLines description))
      ∧ doc.tags = tags.map WrittenTag.toTag := by
  obtain ⟨closing, blocks, hclosing, hblocks, hread⟩ := structureOf_written hsection htags
  have hspoken : spokenLines ([] :: (description.map Text.dropReturn ++ closing))
      = spokenLines description := spokenLines_append hclosing description
  have hunlinked : Unlinked (spokenLines description) := fun l hl =>
    hlinks.map_trim l (List.mem_filter.mp hl).1
  rw [← hspoken] at hunlinked
  rw [DocComment.parse, String.toList_ofList, hread]
  refine ⟨?_, hblocks⟩
  rw [descriptionText_eq hunlinked, hspoken]

end Written

/-- Lines with a fence around what looks like a tag, and with a star. -/
def fencedDescription : List Line :=
  ["Shows a card.".toList, [], "```ts".toList, "@Input() title;".toList, "```".toList,
    "  * with a star".toList]

/-- Tags with nothing behind their names, with the same name, and with a fence. -/
def fencedTags : List WrittenTag :=
  [⟨"see".toList, "AxList".toList, []⟩,
    ⟨"example".toList, [], ["```ts".toList, "@Input foo".toList, [], "```".toList]⟩,
    ⟨"see".toList, [], ["* AxTable".toList, []]⟩]

/-- A section with a tag in a fence, and tags with the same name, with stars and with a fence. -/
theorem parse_written_fenced :
    IsSection fencedDescription ∧ Unlinked fencedDescription ∧ (∀ t ∈ fencedTags, t.IsProper) ∧
      let doc := DocComment.parse
        (String.ofList (writeComment (writtenLines fencedDescription fencedTags)))
      doc.descriptionText = "Shows a card. @Input() title; * with a star"
        ∧ doc.tags = [⟨"see", "AxList"⟩, ⟨"example", "```ts\n@Input foo\n\n```"⟩,
          ⟨"see", "* AxTable"⟩] := by
  have hsection : IsSection fencedDescription := by decide
  have hlinks : Unlinked fencedDescription := by decide
  have htags : ∀ t ∈ fencedTags, t.IsProper := by decide
  have hread := parse_written hsection hlinks htags
  refine ⟨hsection, hlinks, htags, hread.1.trans ?_, hread.2.trans ?_⟩
  · decide
  · decide

end DocCatalog.Doc
