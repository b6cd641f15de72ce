import DocCatalog.Proofs.Doc.TagLine
import DocCatalog.Proofs.Doc.Written
import DocCatalog.Proofs.Text.Visible
import Mathlib.Data.List.Forall2
import Mathlib.Data.List.TakeWhile

/-!
# Delimiters of block comments

A block comment says what stands between its delimiters. They are taken off one after the other, and only
where there is nothing between them does the second star of the opening one take the first character of
the closing one.

* **`Unstarred`**, **`Distributes`**: the lines of a comment, and where they go.
* **`bodyLines_blockComment`**: the lines that are read.
* **`distributes_structureOf`**: every line goes to the description or to one tag.
* **`descriptionText_within`**, **`tags_within`**, **`examples_within`**: nothing is said that no line says.
* **`Delimits`**, **`delimits_parse_iff`**: what is read of a comment is what stands between its
  delimiters, unless that is nothing.
-/

namespace DocCatalog.Doc

/-- A comment with the given text between its delimiters. -/
def blockComment (body : List Char) : List Char := '/' :: '*' :: (body ++ ['*', '/'])

/-- The text without one star in front. -/
def withoutStar (body : List Char) : List Char :=
  match body with
  | '*' :: rest => rest
  | _ => body

/-- A line, and what is left of it: a star behind nothing but blanks is taken away with what is in front
of it and one space behind it. -/
inductive Unstarred : Line → Line → Prop
  | spaced {blanks : Line} (rest : Line) (h : ∀ c ∈ blanks, Text.isBlank c = true) :
      Unstarred (blanks ++ '*' :: ' ' :: rest) rest
  | bare {blanks rest : Line} (h : ∀ c ∈ blanks, Text.isBlank c = true) (hrest : rest.head? ≠ some ' ') :
      Unstarred (blanks ++ '*' :: rest) rest
  | plain {line : Line}
      (h : ∀ blanks rest, (∀ c ∈ blanks, Text.isBlank c = true) → line ≠ blanks ++ '*' :: rest) :
      Unstarred line line

/-- Every line goes, in order, to the description or to a tag: whole, or, where it is the line of the tag,
as the name behind the at sign and what follows that behind blanks. -/
inductive Distributes : List Line → List Line → List TagBlock → Prop
  | nil : Distributes [] [] []
  | line {lines own : List Line} {blocks : List TagBlock} (line : Line)
      (h : Distributes lines own blocks) : Distributes (line :: lines) (line :: own) blocks
  | tag {lines own : List Line} {blocks : List TagBlock} {line name rest : Line}
      (hline : Text.trim line = '@' :: (name ++ rest)) (h : Distributes lines own blocks) :
      Distributes (line :: lines) [] (⟨name, Text.trimStart rest :: own⟩ :: blocks)

/-! ## Lines

A line loses one star with the blanks in front of it and one space behind it. Without a star there
it loses nothing. -/

/-- A text of one character is taken off where it stands. -/
theorem dropStart_singleton (c : Char) (s : List Char) :
    Text.dropStart [c] s = if s.head? = some c then s.drop 1 else s := by
  cases s with
  | nil => rfl
  | cons d s => by_cases h : c = d <;> simp [Text.dropStart, Text.afterStart?, h, Ne.symm]

/-- A star in front is the body's own one, if there is a body. -/
theorem dropStart_star {body : List Char} (h : body ≠ []) (rest : List Char) :
    Text.dropStart ['*'] (body ++ rest) = withoutStar body ++ rest := by
  obtain ⟨c, body, rfl⟩ := List.exists_cons_of_ne_nil h
  rw [dropStart_singleton]
  by_cases hc : c = '*'
  · rw [hc]
    rfl
  · have hbody : withoutStar (c :: body) = c :: body := by
      unfold withoutStar
      split
      · next heq => exact absurd (List.cons.inj heq).1 hc
      · rfl
    rw [hbody, if_neg (by simpa using hc)]

/-- Behind a star one space is taken off. -/
theorem unstarred_behind {blanks : Line} (h : ∀ c ∈ blanks, Text.isBlank c = true) (rest : Line) :
    Unstarred (blanks ++ '*' :: rest) (Text.dropStart [' '] rest) := by
  rw [dropStart_singleton]
  split
  · next hspace =>
      obtain ⟨rest, rfl⟩ := List.head?_eq_some_iff.mp hspace
      exact .spaced rest h
  · next hspace => exact .bare h hspace

/-- **What the program leaves of a line** is what is said here. -/
theorem unstarred_stripStar (line : Line) : Unstarred line (stripStar line) := by
  unfold stripStar
  split
  · next rest hstart =>
      have hsplit := List.takeWhile_append_dropWhile (p := Text.isBlank) (l := line)
      rw [show line.dropWhile Text.isBlank = '*' :: rest from hstart] at hsplit
      have hbehind := unstarred_behind
        (fun c hc => List.mem_takeWhile_imp (p := Text.isBlank) (l := line) hc) rest
      rwa [hsplit] at hbehind
  · next hstart =>
      refine .plain fun blanks rest hblanks hline => hstart rest ?_
      rw [hline, Text.trimStart]
      exact Text.dropWhile_append_stop hblanks fun c hc => by
        cases hc
        decide

/-- A line only loses characters. -/
theorem Unstarred.sublist {line left : Line} (h : Unstarred line left) : left.Sublist line := by
  cases h with
  | @spaced blanks _ _ => exact List.sublist_append_of_sublist_right (by simp)
  | @bare blanks _ _ _ => exact List.sublist_append_of_sublist_right (List.sublist_cons_self _ _)
  | plain _ => exact List.Sublist.refl line

theorem flatten_sublist_of_unstarred {lines left : List Line} (h : List.Forall₂ Unstarred lines left) :
    left.flatten.Sublist lines.flatten := by
  induction h with
  | nil => exact List.Sublist.refl []
  | cons hline _ ih => exact hline.sublist.append ih

/-! ## Delimiters

The delimiters are taken off in turn, which goes wrong only where they would share a star. -/

/-- A comment begins and ends with its delimiters, so that trimming does nothing. -/
theorem trimmed_blockComment (body : List Char) : Text.Trimmed (blockComment body) := by
  refine ⟨fun c hc => ?_, fun c hc => ?_⟩
  · cases hc
    decide
  · have hlast : blockComment body = ('/' :: '*' :: (body ++ ['*'])) ++ ['/'] := by
      simp [blockComment]
    rw [hlast, List.getLast?_concat] at hc
    cases hc
    decide

/-- What is left after both delimiters were tried. -/
theorem bodyLines_eq (body : List Char) : bodyLines (blockComment body)
    = (Text.lines (Text.dropEnd ['*', '/'] (Text.dropStart ['*'] (body ++ ['*', '/'])))).map stripStar := by
  rw [bodyLines, (trimmed_blockComment body).trim_eq]
  rfl

/-- **The lines of a comment** are those between its delimiters, without their stars. -/
theorem bodyLines_blockComment {body : List Char} (h : body ≠ []) :
    bodyLines (blockComment body) = (Text.lines (withoutStar body)).map stripStar := by
  rw [bodyLines_eq, dropStart_star h, dropEnd_append]

/-! ## Structure

Lines are gone through in order. A tag opens a block, and the lines behind it go to it. -/

/-- A line that opens a block begins with the sign of tags and the name. -/
theorem tagLine?_eq_some {line name value : Line} (h : tagLine? line = some (name, value)) :
    ∃ rest, line = '@' :: (name ++ rest) ∧ value = Text.trimStart rest := by
  cases line with
  | nil => cases h
  | cons c r =>
      by_cases hc : c = '@'
      · subst hc
        have hsplit := List.takeWhile_append_dropWhile (p := isTagChar) (l := r)
        refine ⟨r.dropWhile isTagChar, ?_⟩
        -- the value is what stands behind the name, or nothing if the name ends the line
        rw [tagLine?_eq] at h
        split at h
        · cases h
        · split at h
          · next hempty =>
              cases h
              rw [hsplit, List.isEmpty_iff.mp hempty]
              exact ⟨rfl, rfl⟩
          · split at h
            · cases h
              rw [hsplit]
              exact ⟨rfl, rfl⟩
            · cases h
      · unfold tagLine? at h
        split at h
        · next heq => exact absurd (List.cons.inj heq).1 hc
        · cases h

/-- **Every line goes to one place**, inside of a fence and outside. -/
theorem distributes_structureOf (fenced : Bool) (lines : List Line) :
    Distributes lines (structureOf fenced lines).1 (structureOf fenced lines).2 := by
  induction lines generalizing fenced with
  | nil => exact .nil
  | cons line lines ih =>
      rw [structureOf]
      split
      · exact .line line (ih _)
      · split
        · next name value htag =>
            cases fenced with
            | true => cases htag
            | false =>
                obtain ⟨rest, hline, rfl⟩ := tagLine?_eq_some htag
                exact .tag hline (ih _)
        · exact .line line (ih _)

/-- What the description and the tags have is within the lines. -/
theorem Distributes.within {lines own : List Line} {blocks : List TagBlock}
    (h : Distributes lines own blocks) :
    Text.Within (own.flatten ++ blocks.flatMap fun b => b.name ++ b.lines.flatten) lines.flatten := by
  induction h with
  | nil => exact Text.Within.refl []
  | line line _ ih =>
      rw [List.flatten_cons, List.flatten_cons, List.append_assoc]
      exact (Text.Within.refl line).append ih
  | @tag lines own blocks line name rest hline _ ih =>
      have hrest : (name ++ Text.trimStart rest).Sublist line := by
        refine List.Sublist.trans ?_ (Text.trim_sublist line)
        rw [hline]
        exact (((List.dropWhile_sublist Text.isBlank).append_left name)).cons '@'
      rw [List.flatten_nil, List.nil_append, List.flatMap_cons, List.flatten_cons, List.flatten_cons]
      have happend := (Text.Within.of_sublist hrest).append ih
      simpa only [List.append_assoc] using happend

/-! ## What is said

All that is read off a comment is put together from its lines, without characters that are not in
them, apart from blanks. -/

theorem takeWhile_append_drop {p : Char → Bool} (s : List Char) :
    s.takeWhile p ++ s.drop (s.takeWhile p).length = s :=
  (List.prefix_iff_eq_append.mp (List.takeWhile_prefix p))

/-- A bar may be dropped. -/
theorem dropBar_sublist (s : List Char) :
    (match s with
      | '|' :: r => r
      | r => r).Sublist s := by
  split
  · exact List.sublist_cons_self _ _
  · exact List.Sublist.refl _

/-- The parts of a link stand in its text, in their order. -/
theorem parseLinkBody?_sublist {s target label after : List Char}
    (h : parseLinkBody? s = some (target, label, after)) : (target ++ (label ++ after)).Sublist s := by
  unfold parseLinkBody? at h
  extract_lets inner target' rest behind label' at h
  have hinner : inner.Sublist s := List.dropWhile_sublist Text.isBlank
  have hrest : rest.Sublist (inner.drop target'.length) := List.dropWhile_sublist Text.isBlank
  have hbehind : behind.Sublist rest := dropBar_sublist rest
  split at h
  · cases h
  · -- without a brace that closes it there is no link
    next c after' hafter =>
      split at h
      · obtain ⟨rfl, rfl, rfl⟩ : target' = target ∧ Text.trim label' = label ∧ after' = after := by
          simpa using h
        have hlabel : label' ++ c :: after' = behind := hafter ▸ takeWhile_append_drop behind
        have htarget : target' ++ inner.drop target'.length = inner := takeWhile_append_drop inner
        have hclosed : (Text.trim label' ++ after').Sublist behind := by
          rw [← hlabel]
          exact (Text.trim_sublist label').append (List.sublist_cons_self c after')
        rw [← htarget] at hinner
        exact (((hclosed.trans hbehind).trans hrest).append_left target').trans hinner
      · cases h

theorem parseLink?_sublist {s target label after : List Char}
    (h : parseLink? s = some (target, label, after)) : (target ++ (label ++ after)).Sublist s := by
  unfold parseLink? at h
  split at h
  · next r =>
      obtain ⟨word, -, hword⟩ := List.exists_of_findSome?_eq_some h
      obtain ⟨behind, hbehind, hbody⟩ := Option.bind_eq_some_iff.mp hword
      have hdrop : behind.Sublist r := by
        unfold Text.afterStart? at hbehind
        split at hbehind
        · cases hbehind
          exact List.drop_sublist _ r
        · cases hbehind
      exact ((parseLinkBody?_sublist hbody).trans hdrop).cons _ |>.cons _
  · cases h

/-- A text without its links has no other characters. -/
theorem flattenLinks_sublist (s : List Char) : (flattenLinks s).Sublist s := by
  have hgo : ∀ fuel s, (flattenLinks.go fuel s).Sublist s := by
    intro fuel
    induction fuel with
    | zero => exact fun s => List.Sublist.refl s
    | succ fuel ih =>
        intro s
        cases s with
        | nil => exact List.Sublist.refl []
        | cons c r =>
            rw [flattenLinks.go]
            split
            · -- a link leaves its target and its label in one of the two orders; the words are kept
              -- in the order of the text only if one of them is left out
              next target label after hlink =>
                refine List.Sublist.trans ?_ (parseLink?_sublist hlink)
                split
                · exact (((ih after).trans (List.sublist_append_right label after)).append_left target)
                · exact ((ih after).append_left label).trans (List.sublist_append_right target _)
            · exact (ih r).cons_cons c
  exact hgo s.length s

variable (d : DocComment)

theorem within_trim (s : Line) : Text.Within (Text.trim s) s := Text.Within.of_sublist (Text.trim_sublist s)

/-- **The description** says what the lines in front of the first tag say. -/
theorem descriptionText_within : Text.Within d.descriptionText.toList d.description.flatten := by
  have hlines : Text.Within
      ((d.description.map Text.trim).filter fun l => !l.isEmpty && !isFence l).flatten
      d.description.flatten :=
    (Text.Within.of_sublist List.filter_sublist.flatten).trans
      (Text.Within.flatten_map fun l _ => within_trim l)
  rw [DocComment.descriptionText, String.toList_ofList]
  exact (within_trim _).trans ((Text.Within.of_sublist (flattenLinks_sublist _)).trans
    ((Text.within_join (by decide) _).trans hlines))

/-- The value of a tag is made of its lines. -/
theorem tagValue_within (lines : List Line) :
    Text.Within (DocComment.tagValue lines) lines.flatten :=
  (within_trim _).trans ((Text.Within.of_sublist (flattenLinks_sublist _)).trans
    ((within_trim _).trans ((Text.within_join (by decide) _).trans
      (Text.Within.flatten_map fun l _ => within_trim l))))

/-- **The tags** say what the blocks say. -/
theorem tags_within :
    Text.Within (d.tags.flatMap fun t => t.name.toList ++ t.value.toList)
      (d.blocks.flatMap fun b => b.name ++ b.lines.flatten) := by
  rw [DocComment.tags, List.flatMap_map]
  refine Text.Within.flatMap fun b _ => ?_
  rw [String.toList_ofList, String.toList_ofList]
  exact (Text.Within.refl b.name).append (tagValue_within b.lines)

/-- The text of an example is made of its lines. -/
theorem exampleText_within {lines : List Line} {text : String}
    (h : DocComment.exampleText lines = some text) : Text.Within text.toList lines.flatten := by
  unfold DocComment.exampleText at h
  extract_lets caption body code at h
  have hbody : Text.Within body.flatten (lines.drop 1).flatten :=
    (Text.Within.of_sublist List.filter_sublist.flatten).trans
      (Text.Within.flatten_map fun l _ => Text.Within.of_sublist (Text.trimEnd_sublist l))
  have hcode : Text.Within code (lines.drop 1).flatten := (Text.within_dedent body).trans hbody
  have hcaption : Text.Within caption (lines.head?.getD []) := within_trim _
  have hlines : lines.flatten = lines.head?.getD [] ++ (lines.drop 1).flatten := by
    cases lines <;> rfl
  have hblank : Text.Within ('\n' :: code) code := List.Sublist.refl (Text.visible code)
  rw [hlines]
  split at h <;> cases h <;> rw [String.toList_ofList]
  · exact hcode.trans (Text.Within.of_sublist (List.sublist_append_right _ _))
  · exact hcaption.trans (Text.Within.of_sublist (List.sublist_append_left _ _))
  · exact hcaption.append (hblank.trans hcode)

/-- **The examples** say what the blocks say. -/
theorem examples_within :
    Text.Within (d.examples.flatMap String.toList)
      (d.blocks.flatMap fun b => b.name ++ b.lines.flatten) := by
  unfold DocComment.examples DocComment.blocksNamed
  induction d.blocks with
  | nil => exact Text.Within.refl []
  | cons b blocks ih =>
      have hskip : Text.Within (blocks.flatMap fun b => b.name ++ b.lines.flatten)
          ((b :: blocks).flatMap fun b => b.name ++ b.lines.flatten) :=
        Text.Within.of_sublist (List.sublist_append_right _ _)
      rw [List.filter_cons]
      split
      · -- a block without text in it adds nothing
        rw [List.map_cons, List.filterMap_cons]
        split
        · exact ih.trans hskip
        · next text htext =>
            rw [List.flatMap_cons, List.flatMap_cons]
            have hlines := Text.Within.of_sublist (List.sublist_append_right b.name b.lines.flatten)
            exact ((exampleText_within htext).trans hlines).append ih
      · exact ih.trans hskip

/-! ## Comments

All of this follows when the lines that are read are those between the delimiters. -/

/-- What is read of a comment is what stands between its delimiters. -/
structure Delimits (body : List Char) (d : DocComment) : Prop where
  lines : ∃ lines, List.Forall₂ Unstarred (Text.lines (withoutStar body)) lines
    ∧ Distributes lines d.description d.blocks
  description : (Text.visible d.descriptionText.toList).Sublist body
  tags : (Text.visible (d.tags.flatMap fun t => t.name.toList ++ t.value.toList)).Sublist body
  examples : (Text.visible (d.examples.flatMap String.toList)).Sublist body

/-- A star may be dropped in front of the body. -/
theorem withoutStar_sublist (body : List Char) : (withoutStar body).Sublist body := by
  unfold withoutStar
  split
  · exact List.sublist_cons_self _ _
  · exact List.Sublist.refl _

/-- What is read of the right lines is delimited. -/
theorem delimits_of_lines {body : List Char} {lines : List Line} {d : DocComment}
    (hlines : List.Forall₂ Unstarred (Text.lines (withoutStar body)) lines)
    (hd : Distributes lines d.description d.blocks) : Delimits body d := by
  have hbody : Text.Within lines.flatten body := Text.Within.of_sublist
    ((flatten_sublist_of_unstarred hlines).trans
      ((Text.lines_sublist _).trans (withoutStar_sublist body)))
  have hall := hd.within.trans hbody
  have hleft := (Text.Within.of_sublist (List.sublist_append_left _ _)).trans hall
  have hright := (Text.Within.of_sublist (List.sublist_append_right _ _)).trans hall
  exact ⟨⟨lines, hlines, hd⟩, ((descriptionText_within d).trans hleft).visible_sublist,
    ((tags_within d).trans hright).visible_sublist, ((examples_within d).trans hright).visible_sublist⟩

/-- What is read of a comment is distributed from its lines. -/
theorem distributes_parse (body : List Char) :
    Distributes (bodyLines (blockComment body))
      (DocComment.parse (String.ofList (blockComment body))).description
      (DocComment.parse (String.ofList (blockComment body))).blocks := by
  rw [DocComment.parse, String.toList_ofList]
  exact distributes_structureOf false _

/-- **What is read of a block comment** is what stands between its delimiters, whatever that is, but for
a comment with nothing between them. -/
theorem delimits_parse_iff (body : List Char) :
    Delimits body (DocComment.parse (String.ofList (blockComment body))) ↔ body ≠ [] := by
  constructor
  · rintro h rfl
    obtain ⟨lines, hlines, hd⟩ := h.lines
    rw [show Text.lines (withoutStar []) = [] from rfl, List.forall₂_nil_left_iff] at hlines
    have hslash : (DocComment.parse (String.ofList (blockComment []))).description = [['/']] := by
      decide
    rw [hlines, hslash] at hd
    cases hd
  · intro h
    have hlines : List.Forall₂ Unstarred (Text.lines (withoutStar body)) (bodyLines (blockComment body)) := by
      rw [bodyLines_blockComment h, List.forall₂_map_right_iff, List.forall₂_same]
      exact fun line _ => unstarred_stripStar line
    exact delimits_of_lines hlines (distributes_parse body)

/-- The slash of the closing delimiter describes a node whose comment is empty. -/
theorem empty_comment_leaks :
    (DocComment.parse "/**/").descriptionText = "/"
      ∧ ¬ ∀ body : List Char, ¬ ['*', '/'] <:+: body →
        Delimits body (DocComment.parse (String.ofList (blockComment body))) :=
  ⟨by decide, fun h => (delimits_parse_iff []).mp (h [] (by decide)) rfl⟩

end DocCatalog.Doc
