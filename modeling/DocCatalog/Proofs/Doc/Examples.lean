import DocCatalog.Proofs.Doc.Blocks
import DocCatalog.Proofs.Text.Indented

/-!
# Examples are read back

Every example of a comment that is written line by line is shown with its caption and its code: the
lines below it without fences, indentation and blank ends. Other tags, and what looks like tags inside
of fences, make no difference.

* **`WrittenTag.exampleText?`**: what an example is written to show.
* **`exampleText_eq`**: what is read of one example.
* **`examples_written`**: the examples of a comment.
-/

namespace DocCatalog.Doc

namespace WrittenTag

/-- The lines below a tag without fences, and without the blanks at their ends. -/
def codeLines (t : WrittenTag) : List Line := (t.body.filter (!isMarker ·)).map Text.trimEnd

/-- Some line below the tag is neither blank nor a fence. -/
def hasCode (t : WrittenTag) : Bool := t.body.any fun l => !isMarker l && !Text.isAllBlank l

/-- What an example is written to show: its caption and its code, as far as there are any. -/
def exampleText? (t : WrittenTag) : Option String :=
  match t.first.isEmpty, t.hasCode with
  | true, false => none
  | true, true => some (String.ofList (Text.dedent t.codeLines))
  | false, false => some (String.ofList t.first)
  | false, true => some (String.ofList (t.first ++ '\n' :: Text.dedent t.codeLines))

variable (t : WrittenTag)

theorem isEmpty_dedent_codeLines : (Text.dedent t.codeLines).isEmpty = !t.hasCode := by
  rw [Bool.eq_iff_iff, List.isEmpty_iff, Text.dedent_eq_nil_iff, Bool.not_eq_true', hasCode,
    List.any_eq_false]
  constructor
  · -- code in a line would leave it standing, without the blanks at its end
    intro hblank l hl hcode
    obtain ⟨hmarker, hline⟩ := Bool.and_eq_true_iff.mp hcode
    have hall := hblank _ (List.mem_map_of_mem (List.mem_filter.mpr ⟨hl, hmarker⟩))
    rw [Text.isAllBlank_trimEnd] at hall
    rw [hall] at hline
    cases hline
  · -- a line that stands is one of the body, no marker and not blank, so it is code
    intro hnone line hline
    obtain ⟨l, hl, rfl⟩ := List.mem_map.mp hline
    obtain ⟨hbody, hmarker⟩ := List.mem_filter.mp hl
    rw [Text.isAllBlank_trimEnd]
    by_contra hblank
    rw [Bool.not_eq_true] at hblank
    exact hnone l hbody (by rw [hmarker, hblank]; rfl)

/-- Carriage returns and the line of the closing delimiter do not show in the code. -/
theorem codeLines_of_read (closing : List Line) :
    (((t.body.map Text.dropReturn ++ closing).map Text.trimEnd).filter
        fun l => !isFence (Text.trimStart l))
      = t.codeLines ++ ((closing.filter (!isMarker ·)).map Text.trimEnd) := by
  have hfence : (fun l => !isFence (Text.trimStart l)) ∘ Text.trimEnd = (!isMarker ·) := by
    funext l
    show (!isFence (Text.trimStart (Text.trimEnd l))) = !isFence (Text.trim l)
    rw [Text.trimStart_trimEnd]
  have hreturn : Text.trimEnd ∘ Text.dropReturn = Text.trimEnd := funext Text.trimEnd_dropReturn
  rw [List.map_append, List.map_map, hreturn, List.filter_append, List.filter_map, List.filter_map,
    hfence, codeLines]

end WrittenTag

/-- **One example is read back.** -/
theorem exampleText_eq {t : WrittenTag} {b : TagBlock} (h : t.ReadAs b)
    (hfirst : Text.Trimmed t.first) : DocComment.exampleText b.lines = t.exampleText? := by
  obtain ⟨closing, hclosing, hlines⟩ := h.lines
  have hcode : Text.dedent (((b.lines.drop 1).map Text.trimEnd).filter
      fun l => !isFence (Text.trimStart l)) = Text.dedent t.codeLines := by
    rw [hlines, List.drop_one, List.tail_cons, t.codeLines_of_read]
    rcases hclosing with rfl | rfl
    · rw [List.filter_nil, List.map_nil, List.append_nil]
    · -- the line of the closing delimiter is blank
      have hblank : ([[' ']].filter (!isMarker ·)).map Text.trimEnd = [[]] := by decide
      rw [hblank, Text.dedent_concat_blank rfl]
  have hcaption : Text.trim (b.lines.head?.getD []) = t.first := by
    rw [hlines]
    exact hfirst.trim_eq
  rw [DocComment.exampleText, hcaption, hcode, t.isEmpty_dedent_codeLines, WrittenTag.exampleText?]
  cases t.first.isEmpty <;> cases t.hasCode <;> rfl

theorem filterMap_exampleText {tags : List WrittenTag} {blocks : List TagBlock}
    (h : List.Forall₂ WrittenTag.ReadAs tags blocks) (hfirst : ∀ t ∈ tags, Text.Trimmed t.first)
    (name : Line) :
    ((blocks.filter (·.name == name)).map (·.lines)).filterMap DocComment.exampleText
      = (tags.filter (·.name == name)).filterMap WrittenTag.exampleText? := by
  induction h with
  | nil => rfl
  | @cons t b tags blocks hread hrest ih =>
      have hbehind := ih fun u hu => hfirst u (List.mem_cons_of_mem t hu)
      rw [List.filter_cons, List.filter_cons, hread.name]
      by_cases hname : (t.name == name) = true
      · rw [if_pos hname, if_pos hname, List.map_cons, List.filterMap_cons, List.filterMap_cons,
          exampleText_eq hread (hfirst t List.mem_cons_self), hbehind]
      · rw [if_neg hname, if_neg hname, hbehind]

/-- **The examples of a comment are read back**, one behind the other: every example with a caption or
code shows these, and no other tag shows anything. -/
theorem examples_written {description : List Line} {tags : List WrittenTag}
    (hsection : IsSection description) (htags : ∀ t ∈ tags, t.IsReadable) :
    (DocComment.parse (String.ofList (writeComment (writtenLines description tags)))).examples
      = (tags.filter (·.name == "example".toList)).filterMap WrittenTag.exampleText? := by
  obtain ⟨closing, blocks, -, hblocks, hread⟩ := structureOf_writtenLines hsection htags
  rw [DocComment.parse, String.toList_ofList, hread]
  exact filterMap_exampleText hblocks (fun t ht => (htags t ht).first) _

/-- Examples with a caption, with nothing, with code and with both, and another tag between them. -/
def captionedTags : List WrittenTag :=
  [⟨"example".toList, "Basic".toList, []⟩,
    ⟨"example".toList, [], ["```".toList, "   ".toList, "```".toList]⟩,
    ⟨"see".toList, [], ["    AxList".toList]⟩,
    ⟨"example".toList, [],
      [[], "  class A \x7b  ".toList, "    @Input() x;".toList, "  \x7d".toList]⟩,
    ⟨"example".toList, "Fenced".toList,
      ["```ts".toList, "@Input foo".toList, [], "  bar".toList, "```".toList]⟩]

theorem examples_written_captioned :
    IsSection ["Shows a card.".toList] ∧ (∀ t ∈ captionedTags, t.IsReadable) ∧
      (DocComment.parse (String.ofList
          (writeComment (writtenLines ["Shows a card.".toList] captionedTags)))).examples
        = ["Basic", "class A \x7b\n  @Input() x;\n\x7d", "Fenced\n@Input foo\n\n  bar"] := by
  have hsection : IsSection ["Shows a card.".toList] := by decide
  have htags : ∀ t ∈ captionedTags, t.IsReadable := by decide
  refine ⟨hsection, htags, (examples_written hsection htags).trans ?_⟩
  decide

end DocCatalog.Doc
