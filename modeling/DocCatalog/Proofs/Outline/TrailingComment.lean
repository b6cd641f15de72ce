import Mathlib.Data.List.TakeWhile
import DocCatalog.Outline.OfTree
/-!
# Comments that trail a statement

A comment at the end of a statement's row belongs to that statement. Which comments the search for
the comment of a declaration passes over, and which of them it takes.

* `candidates`: the comments that the search may take, each with the siblings before it.
* `leadingComment_eq`: it takes the nearest block comment among them, or else the nearest of all.
* `trails`: a comment that begins on the row on which the statement before it ends.
* `trails_behind_comment`: a comment that trails a statement is taken only if it does not stand next
  to that statement.
* `leadingComment_row`: behind a comment that trails a statement any further one can be taken.

The search looks no further back than one sibling, so of several comments on the row of a statement
only the first one is known to trail it.
-/

namespace DocCatalog.Outline

open Script

/-! ## What the search takes

The search goes back from a declaration over what belongs to it and over comments, as far as it may.
A block comment goes before any other. -/

/-- The comments at the head of `before`, up to one next to the statement that it trails. Each stands
with the siblings before it. -/
def candidates : List Node → List (Node × List Node)
  | [] => []
  | c :: rest =>
    if c.kind != .comment || isTrailing c rest then [] else (c, rest) :: candidates rest

/-- The comment that documents a node, with the siblings before the comment. -/
def documenting? (before : List Node) : Option (Node × List Node) :=
  let found := candidates (before.dropWhile isHeadOfDeclaration)
  found.find? (isBlockComment ·.1) <|> found.head?

-- The fallback is the nearest comment that was passed, so it goes before every later one, but after
-- every block comment.
/-- It takes a block comment if there is one among the candidates, and otherwise the nearest. -/
theorem nearestComment_eq (before : List Node) (fallback : Option String) :
    nearestComment before fallback =
      (((candidates before).find? (isBlockComment ·.1)).map (·.1.text) <|>
        (fallback <|> (candidates before).head?.map (·.1.text))) := by
  induction before generalizing fallback with
  | nil => simp [nearestComment, candidates]
  | cons c rest ih =>
    rw [nearestComment, candidates]
    by_cases hends : (c.kind != .comment || isTrailing c rest) = true
    · simp [hends]
    · rw [if_neg hends, if_neg hends]
      by_cases hblock : isBlockComment c = true
      · simp [hblock]
      · have hpassed : ((c, rest) :: candidates rest).find? (isBlockComment ·.1) =
            (candidates rest).find? (isBlockComment ·.1) := List.find?_cons_of_neg hblock
        rw [if_neg hblock, ih, hpassed, List.head?_cons]
        cases fallback <;> simp

/-- The text that is taken is that of the comment. -/
theorem leadingComment_eq (before : List Node) :
    leadingComment before = (documenting? before).map (·.1.text) := by
  rw [leadingComment, nearestComment_eq, documenting?]
  cases (candidates (before.dropWhile isHeadOfDeclaration)).find? (isBlockComment ·.1) <;> simp

/-- What is taken is one of the candidates. -/
theorem mem_candidates_of_documenting {before : List Node} {found : Node × List Node}
    (h : documenting? before = some found) :
    found ∈ candidates (before.dropWhile isHeadOfDeclaration) := by
  rw [documenting?, Option.orElse_eq_orElse, Option.orElse_eq_or, Option.or_eq_some_iff] at h
  obtain hblock | ⟨-, hfirst⟩ := h
  · exact List.mem_of_find?_eq_some hblock
  · exact List.mem_of_head? hfirst

/-- The search passes over nothing but comments. -/
theorem candidates_split {before : List Node} {c : Node} {rest : List Node}
    (h : (c, rest) ∈ candidates before) :
    c.kind = .comment ∧ isTrailing c rest = false ∧
      ∃ passed, before = passed ++ c :: rest ∧ ∀ n ∈ passed, n.kind = .comment := by
  induction before with
  | nil => cases h
  | cons n before ih =>
    rw [candidates] at h
    split at h
    · cases h
    · next hgoes =>
      obtain ⟨hcomment, hnot⟩ : n.kind = .comment ∧ isTrailing n before = false := by
        simpa using hgoes
      rcases List.mem_cons.mp h with hhead | hlater
      · obtain ⟨rfl, rfl⟩ := Prod.mk.inj hhead
        exact ⟨hcomment, hnot, [], rfl, by simp⟩
      · obtain ⟨hkind, htrails, passed, rfl, hpassed⟩ := ih hlater
        refine ⟨hkind, htrails, n :: passed, rfl, ?_⟩
        simpa using ⟨hcomment, hpassed⟩

/-! ## Comments on the row of a statement

A comment is passed over when it follows a statement on its row. Of the two only the sibling right
before the comment is looked at. -/

/-- The nearest sibling that a comment can trail. -/
def statementBefore? (before : List Node) : Option Node :=
  before.find? fun n => n.kind != .comment && !n.isToken "\x7b"

/-- A comment that begins on the row on which the statement before it ends. -/
def trails (c : Node) (before : List Node) : Bool :=
  (statementBefore? before).any fun s => s.lastRow == c.row

/-- The test that the search makes is exact for a comment that stands next to a statement. -/
theorem isTrailing_eq_trails (c s : Node) (rest : List Node)
    (hs : statementBefore? (s :: rest) = some s) : isTrailing c (s :: rest) = trails c (s :: rest) := by
  have hstatement := List.find?_some hs
  rw [trails, hs, isTrailing, hstatement, Bool.true_and, Option.any_some]

/-- A comment that trails a statement and was not passed over has another comment or a brace before
it. -/
theorem head_of_trails {c : Node} {rest : List Node} (htrails : trails c rest = true)
    (hpassed : isTrailing c rest = false) :
    ∃ n, rest.head? = some n ∧ (n.kind = .comment ∨ n.isToken "\x7b" = true) := by
  cases rest with
  | nil => cases htrails
  | cons n rest =>
    refine ⟨n, rfl, ?_⟩
    by_cases hstatement : n.kind != .comment && !n.isToken "\x7b"
    · have hs : statementBefore? (n :: rest) = some n := List.find?_cons_of_pos hstatement
      rw [isTrailing_eq_trails c n rest hs, htrails] at hpassed
      cases hpassed
    · exact Decidable.or_iff_not_imp_left.mpr (by simpa using hstatement)

/-- A comment that trails a statement documents a node only from behind another comment or a brace,
and with nothing but comments and the head of the declaration between. -/
theorem trails_behind_comment (before : List Node) (text : String)
    (h : leadingComment before = some text) :
    ∃ c rest passed, documenting? before = some (c, rest) ∧ c.kind = .comment ∧ c.text = text ∧
      before = passed ++ c :: rest ∧
      (∀ n ∈ passed, isHeadOfDeclaration n = true ∨ n.kind = .comment) ∧
      (trails c rest = true →
        ∃ n, rest.head? = some n ∧ (n.kind = .comment ∨ n.isToken "\x7b" = true)) := by
  rw [leadingComment_eq, Option.map_eq_some_iff] at h
  obtain ⟨⟨c, rest⟩, hfound, htext⟩ := h
  obtain ⟨hkind, hpassed, comments, hsplit, hcomments⟩ :=
    candidates_split (mem_candidates_of_documenting hfound)
  refine ⟨c, rest, before.takeWhile isHeadOfDeclaration ++ comments, hfound, hkind, htext, ?_, ?_,
    fun htrails => head_of_trails htrails hpassed⟩
  · rw [List.append_assoc, ← hsplit, List.takeWhile_append_dropWhile]
  · intro n hn
    rcases List.mem_append.mp hn with hhead | hcomment
    · exact .inl (List.mem_takeWhile_imp hhead)
    · exact .inr (hcomments n hcomment)

/-! ## Several comments on one row

The first comment behind a statement is known to trail it. For the second one the sibling before is
the first one. -/

section Row

variable {c s : Node} {rest : List Node}

/-- Behind a comment nothing counts as trailing. -/
theorem isTrailing_behind_comment (h : s.kind = .comment) : isTrailing c (s :: rest) = false := by
  simp [isTrailing, h]

/-- A comment does not belong to a declaration. -/
theorem isHeadOfDeclaration_comment (h : c.kind = .comment) : isHeadOfDeclaration c = false := by
  simp [isHeadOfDeclaration, Node.isToken, h]

variable (hc : c.kind = .comment) (hs : statementBefore? (s :: rest) = some s)
  (hrow : c.row = s.lastRow) {comments : List Node} (hcomments : ∀ n ∈ comments, n.kind = .comment)

include hc hs hrow hcomments

/-- The candidates are the comments behind the first one. -/
theorem candidates_row : (candidates (comments ++ c :: s :: rest)).map (·.1) = comments := by
  induction comments with
  | nil =>
    have htrailing : isTrailing c (s :: rest) = true := by
      rw [isTrailing_eq_trails c s rest hs, trails, hs, hrow]
      exact beq_self_eq_true s.lastRow
    rw [List.nil_append, candidates, htrailing, Bool.or_true, if_pos rfl, List.map_nil]
  | cons n comments ih =>
    have hn := hcomments n List.mem_cons_self
    have hbehind := ih fun m hm => hcomments m (List.mem_cons_of_mem n hm)
    -- the sibling behind `n` is a comment on either side of the end of `comments`
    have hnot : isTrailing n (comments ++ c :: s :: rest) = false := by
      cases comments with
      | nil => exact isTrailing_behind_comment hc
      | cons m comments =>
        exact isTrailing_behind_comment (hcomments m (List.mem_cons_of_mem n List.mem_cons_self))
    rw [List.cons_append, candidates, hnot, hn, bne_self_eq_false, Bool.or_false,
      if_neg Bool.false_ne_true, List.map_cons, hbehind]

/-- **Behind a comment that trails a statement** every further comment can document the next one, no
matter how many there are and on which rows. -/
theorem leadingComment_row :
    leadingComment (comments ++ c :: s :: rest)
      = (comments.find? isBlockComment <|> comments.head?).map Node.text := by
  -- a comment is no head of a declaration, so nothing is passed over before the run
  have hhead : (comments ++ c :: s :: rest).dropWhile isHeadOfDeclaration
      = comments ++ c :: s :: rest := by
    cases comments with
    | nil => exact List.dropWhile_cons_of_neg (by simp [isHeadOfDeclaration_comment hc])
    | cons n comments =>
      have hn := isHeadOfDeclaration_comment (hcomments n List.mem_cons_self)
      exact List.dropWhile_cons_of_neg (by simp [hn])
  have hrun := candidates_row hc hs hrow hcomments
  rw [leadingComment_eq, documenting?, hhead]
  generalize candidates (comments ++ c :: s :: rest) = run at hrun
  subst hrun
  rw [List.find?_map, List.head?_map]
  show Option.map (·.1.text) (run.find? (isBlockComment ·.1) <|> run.head?) =
    Option.map Node.text
      ((run.find? (isBlockComment ·.1)).map (·.1) <|> run.head?.map (·.1))
  cases run.find? (isBlockComment ·.1) with
  | some found => rfl
  | none => cases run.head? <;> rfl

end Row

/-- A statement with two comments on its row, as the siblings before the next statement. -/
def twoBehind : List Node :=
  [.leaf .plain .comment " " "/* u */" 0 0, .leaf .plain .comment " " "/* t */" 0 0,
    .leaf .plain .emptyStatement "" ";" 0 0]

/-- The second of two comments behind a statement is taken. -/
theorem trails_behind_comment_two :
    leadingComment twoBehind = some "/* u */" ∧
    ∃ c rest passed, documenting? twoBehind = some (c, rest) ∧ c.kind = .comment ∧
      c.text = "/* u */" ∧ twoBehind = passed ++ c :: rest ∧
      (∀ n ∈ passed, isHeadOfDeclaration n = true ∨ n.kind = .comment) ∧
      (trails c rest = true →
        ∃ n, rest.head? = some n ∧ (n.kind = .comment ∨ n.isToken "\x7b" = true)) :=
  have hdocuments : leadingComment twoBehind = some "/* u */" := by decide
  ⟨hdocuments, trails_behind_comment twoBehind "/* u */" hdocuments⟩

/-- A text with these two comments. -/
def twoBehindText : String := "const a = 1; /* t */ /* u */\nconst x = 1;\n"

/-- The second comment behind a statement trails it, and documents the next statement. -/
theorem second_comment_documents :
    (ofText .plain twoBehindText).map (fun o => o.declarations.map fun d => (d.name, d.comment)) =
      .ok [("a", none), ("x", some "/* u */")] ∧
    ¬ ∀ root, parse .plain twoBehindText = .ok root → ∀ p ∈ Placed.all root.children,
      ∀ c rest, documenting? p.before = some (c, rest) → trails c rest = false := by
  refine ⟨by decide +kernel, fun never => ?_⟩
  have hbroken : (parse .plain twoBehindText).toOption.any (fun root =>
      (Placed.all root.children).any fun p =>
        (documenting? p.before).any fun found => trails found.1 found.2) = true := by
    decide +kernel
  cases hparse : parse .plain twoBehindText with
  | error line => simp [hparse, Except.toOption] at hbroken
  | ok root =>
    simp only [hparse, Except.toOption, Option.any_some, List.any_eq_true] at hbroken
    obtain ⟨p, hp, htrails⟩ := hbroken
    obtain ⟨⟨c, rest⟩, hfound, htrails⟩ := Option.any_eq_true _ _ |>.mp htrails
    have hnot := never root hparse p hp c rest hfound
    rw [hnot] at htrails
    cases htrails

end DocCatalog.Outline
