import DocCatalog.Text.Split

/-!
# Texts that are put together and taken apart

* **`splitWhere_append`**, **`splitWhere_of_forall`**: the pieces of a text with separators in it.
* **`splitWhere_append_of_forall`**, **`splitWhere_head_prefix`**: its first piece.
* **`IsPiece`**, **`getElem?_splitWhere_iff`**: the pieces of a text by their numbers.
* **`takeWhile_append_stop`**, **`dropWhile_append_stop`**: a text up to where a run of characters ends.
* **`lines_ended`**: the lines of a text of which all lines but the last one are ended.
* **`infix_of_append_cons`**: two characters that stand side by side do so on one side of a third one.
-/

namespace DocCatalog.Text

/-! ## Pieces

A separator ends one piece and begins the next, any other character belongs to a piece. -/

/-- At a separator a text can be taken apart, and the pieces of both sides are its pieces. -/
theorem splitWhere_append (p : Char → Bool) (a b : List Char) {c : Char} (hc : p c = true) :
    splitWhere p (a ++ c :: b) = splitWhere p a ++ splitWhere p b := by
  induction a with
  | nil => simp [splitWhere, hc]
  | cons x a ih =>
      rw [List.cons_append, splitWhere, splitWhere]
      cases hx : p x with
      | true => simp [ih]
      | false =>
          rw [ih]
          cases hsplit : splitWhere p a with
          | nil => exact absurd hsplit (splitWhere_ne_nil p a)
          | cons piece rest => rfl

/-- A text without separators is one piece. -/
theorem splitWhere_of_forall {p : Char → Bool} {s : List Char} (h : ∀ c ∈ s, p c = false) :
    splitWhere p s = [s] := by
  induction s with
  | nil => rfl
  | cons c r ih =>
      have hrest := ih fun x hx => h x (List.mem_cons_of_mem _ hx)
      simp [splitWhere, h c List.mem_cons_self, hrest]

/-- What stands in front of the first separator goes to the first piece. -/
theorem splitWhere_append_of_forall {p : Char → Bool} {s : List Char} (h : ∀ c ∈ s, p c = false)
    (rest : List Char) : ∃ piece pieces, splitWhere p rest = piece :: pieces
      ∧ splitWhere p (s ++ rest) = (s ++ piece) :: pieces := by
  obtain ⟨piece, pieces, hrest⟩ := List.exists_cons_of_ne_nil (splitWhere_ne_nil p rest)
  refine ⟨piece, pieces, hrest, ?_⟩
  induction s with
  | nil => exact hrest
  | cons c s ih =>
      have hbehind := ih fun x hx => h x (List.mem_cons_of_mem c hx)
      simp [splitWhere, h c List.mem_cons_self, hbehind]

/-- The first piece is a beginning of the text. -/
theorem splitWhere_head_prefix {p : Char → Bool} {s piece : List Char} {pieces : List (List Char)}
    (h : splitWhere p s = piece :: pieces) : piece <+: s := by
  induction s generalizing piece pieces with
  | nil => exact (List.cons.inj h).1 ▸ List.nil_prefix
  | cons c s ih =>
      rw [splitWhere] at h
      cases hc : p c with
      | true =>
          simp only [hc, if_true] at h
          rw [← (List.cons.inj h).1]
          exact List.nil_prefix
      | false =>
          obtain ⟨first, rest, hsplit⟩ := List.exists_cons_of_ne_nil (splitWhere_ne_nil p s)
          simp only [hc, Bool.false_eq_true, if_false, hsplit] at h
          rw [← (List.cons.inj h).1]
          exact List.cons_prefix_cons.mpr ⟨rfl, ih hsplit⟩

/-- No piece has a separator in it. -/
theorem not_of_mem_splitWhere {p : Char → Bool} {s piece : List Char} {c : Char}
    (hpiece : piece ∈ splitWhere p s) (hc : c ∈ piece) : p c = false := by
  -- a character begins a new piece or goes to the front of the first one
  induction s generalizing piece with
  | nil =>
      rw [splitWhere_nil, List.mem_singleton] at hpiece
      rw [hpiece] at hc
      cases hc
  | cons x s ih =>
      rw [splitWhere] at hpiece
      cases hx : p x with
      | true =>
          simp only [hx, if_true] at hpiece
          rcases List.mem_cons.mp hpiece with rfl | hrest
          · cases hc
          · exact ih hrest hc
      | false =>
          cases hsplit : splitWhere p s with
          | nil => exact absurd hsplit (splitWhere_ne_nil p s)
          | cons first rest =>
              simp only [hx, hsplit] at hpiece
              rcases List.mem_cons.mp hpiece with rfl | hrest
              · rcases List.mem_cons.mp hc with rfl | hfirst
                · exact hx
                · exact ih (hsplit ▸ List.mem_cons_self) hfirst
              · exact ih (hsplit ▸ List.mem_cons_of_mem _ hrest) hc

/-! ## Numbers of pieces

The number of a piece is the number of separators in front of it, so that a piece is told by its
place in the text. -/

/-- A piece between two parts of a text: each of these ends at a separator, if it is not empty, and there
is none in the piece. -/
structure IsPiece (p : Char → Bool) (front piece back : List Char) : Prop where
  before : ∀ c ∈ front.getLast?, p c = true
  behind : ∀ c ∈ back.head?, p c = true
  inner : ∀ c ∈ piece, p c = false

section Numbers

variable {p : Char → Bool} {s front piece back : List Char} {i : Nat}

/-- The piece that the text begins with. -/
theorem IsPiece.first (hback : ∀ c ∈ back.head?, p c = true) (hpiece : ∀ c ∈ piece, p c = false) :
    IsPiece p [] piece back :=
  ⟨fun _ hc => (nomatch hc), hback, hpiece⟩

theorem length_splitWhere (p : Char → Bool) (s : List Char) :
    (splitWhere p s).length = s.countP p + 1 := by
  induction s with
  | nil => rfl
  | cons c s ih =>
      rw [splitWhere, List.countP_cons]
      cases hc : p c with
      | true => simp [ih]
      | false =>
          obtain ⟨piece, pieces, hsplit⟩ := List.exists_cons_of_ne_nil (splitWhere_ne_nil p s)
          rw [hsplit, List.length_cons] at ih
          simp [hsplit, ih]

/-- What stands behind a separator, or in front of all of them, begins with a piece. -/
theorem IsPiece.head?_splitWhere (h : IsPiece p front piece back) :
    (splitWhere p (piece ++ back)).head? = some piece := by
  cases back with
  | nil => rw [List.append_nil, splitWhere_of_forall h.inner, List.head?_cons]
  | cons c back =>
      rw [splitWhere_append p piece back (h.behind c rfl), splitWhere_of_forall h.inner,
        List.singleton_append, List.head?_cons]

/-- A piece is found under the number of separators before it: the front ends with a separator,
unless it is empty. -/
theorem IsPiece.getElem?_splitWhere (h : IsPiece p front piece back) :
    (splitWhere p (front ++ piece ++ back))[front.countP p]? = some piece := by
  have hhead := h.head?_splitWhere
  rw [List.append_assoc]
  cases hlast : front.getLast? with
  | none =>
      rw [List.getLast?_eq_none_iff.mp hlast, List.nil_append, List.countP_nil, ← List.head?_eq_getElem?]
      exact hhead
  | some c =>
      obtain ⟨start, rfl⟩ := List.getLast?_eq_some_iff.mp hlast
      have hc := h.before c hlast
      have hcount : (start ++ [c]).countP p = (splitWhere p start).length := by
        rw [length_splitWhere, List.countP_append, List.countP_singleton, if_pos hc]
      rw [List.append_assoc, List.singleton_append, splitWhere_append p start _ hc, hcount,
        List.getElem?_append_right (Nat.le_refl _), Nat.sub_self, ← List.head?_eq_getElem?]
      exact hhead

/-- A piece stays one when a character is put in front of what is in front of it. -/
theorem IsPiece.cons_front {c : Char} (h : IsPiece p front piece back)
    (hc : p c = true ∨ front ≠ []) : IsPiece p (c :: front) piece back := by
  refine ⟨fun d hd => ?_, h.behind, h.inner⟩
  rw [List.getLast?_cons] at hd
  cases hlast : front.getLast? with
  | none =>
      have hempty := List.getLast?_eq_none_iff.mp hlast
      rw [hlast] at hd
      cases hd
      exact hc.resolve_right fun hne => hne hempty
  | some e =>
      rw [hlast] at hd
      cases hd
      exact h.before e hlast

/-- The first piece has nothing in front, for a front that is not empty ends with a separator. -/
theorem IsPiece.front_eq_nil (h : IsPiece p front piece back) (hcount : front.countP p = 0) :
    front = [] := by
  refine List.getLast?_eq_none_iff.mp (Option.eq_none_iff_forall_ne_some.mpr fun c hc => ?_)
  exact List.countP_eq_zero.mp hcount c (List.mem_of_getLast? hc) (h.before c hc)

/-- Conversely every number that is given stands for a piece of the text. -/
theorem exists_isPiece (h : (splitWhere p s)[i]? = some piece) :
    ∃ front back, s = front ++ piece ++ back ∧ IsPiece p front piece back ∧ front.countP p = i := by
  -- a separator moves all pieces on by one number, any other character goes to the front of the first one
  induction s generalizing i piece with
  | nil =>
      cases i with
      | zero =>
          obtain rfl : [] = piece := Option.some.inj h
          exact ⟨[], [], rfl, .first (fun _ hd => nomatch hd) (fun _ hd => nomatch hd), rfl⟩
      | succ i => cases h
  | cons c s ih =>
      rw [splitWhere] at h
      cases hc : p c with
      | true =>
          rw [if_pos hc] at h
          cases i with
          | zero =>
              obtain rfl : [] = piece := Option.some.inj h
              refine ⟨[], c :: s, rfl, .first (fun d hd => ?_) (fun _ hd => nomatch hd), rfl⟩
              cases hd
              exact hc
          | succ i =>
              obtain ⟨front, back, rfl, hpiece, rfl⟩ := ih h
              exact ⟨c :: front, back, rfl, hpiece.cons_front (Or.inl hc), List.countP_cons_of_pos hc⟩
      | false =>
          obtain ⟨first, others, hsplit⟩ := List.exists_cons_of_ne_nil (splitWhere_ne_nil p s)
          rw [if_neg (Bool.eq_false_iff.mp hc), hsplit] at h
          cases i with
          | zero =>
              obtain rfl : c :: first = piece := Option.some.inj h
              have hfirst : (splitWhere p s)[0]? = some first := by rw [hsplit, List.getElem?_cons_zero]
              obtain ⟨front, back, hs, hpiece, hcount⟩ := ih hfirst
              obtain rfl := hpiece.front_eq_nil hcount
              exact ⟨[], back, congrArg (c :: ·) hs,
                .first hpiece.behind (List.forall_mem_cons.mpr ⟨hc, hpiece.inner⟩), rfl⟩
          | succ i =>
              have hi : (splitWhere p s)[i + 1]? = some piece := hsplit ▸ h
              obtain ⟨front, back, rfl, hpiece, hcount⟩ := ih hi
              refine ⟨c :: front, back, rfl, hpiece.cons_front (Or.inr ?_), ?_⟩
              · rintro rfl
                cases hcount
              · rw [List.countP_cons_of_neg (Bool.eq_false_iff.mp hc), hcount]

/-- **The pieces of a text by their numbers**: a piece has as many separators in front of it. -/
theorem getElem?_splitWhere_iff :
    (splitWhere p s)[i]? = some piece ↔ ∃ front back, s = front ++ piece ++ back
      ∧ IsPiece p front piece back ∧ front.countP p = i := by
  refine ⟨exists_isPiece, ?_⟩
  rintro ⟨front, back, rfl, h, rfl⟩
  exact h.getElem?_splitWhere

end Numbers

/-! ## Runs of characters

A run of characters that fit ends where one does not. -/

section Run

variable {α : Type} {p : α → Bool} {s rest : List α}

/-- A run of elements ends where an element of another kind follows, or nothing. -/
theorem takeWhile_append_stop (h : ∀ c ∈ s, p c = true) (hrest : ∀ c ∈ rest.head?, p c = false) :
    (s ++ rest).takeWhile p = s := by
  rw [List.takeWhile_append_of_pos h]
  cases rest with
  | nil => exact List.append_nil s
  | cons c rest =>
      rw [List.takeWhile_cons_of_neg (Bool.eq_false_iff.mp (hrest c rfl)), List.append_nil]

/-- Behind such a run the rest is what it was. -/
theorem dropWhile_append_stop (h : ∀ c ∈ s, p c = true) (hrest : ∀ c ∈ rest.head?, p c = false) :
    (s ++ rest).dropWhile p = rest := by
  rw [List.dropWhile_append_of_pos h]
  cases rest with
  | nil => rfl
  | cons c rest => exact List.dropWhile_cons_of_neg (Bool.eq_false_iff.mp (hrest c rfl))

end Run

/-! ## Lines

Texts are written line by line and are to be read that way. -/

/-- Lines that are ended by a line feed each are found again, and what follows the last line feed is
one more line. -/
theorem splitWhere_ended {ls : List (List Char)} {last : List Char} (hls : ∀ l ∈ ls, '\n' ∉ l)
    (hlast : '\n' ∉ last) :
    splitWhere (· == '\n') (ls.flatMap (· ++ ['\n']) ++ last) = ls ++ [last] := by
  have hpiece : ∀ {l : List Char}, '\n' ∉ l → splitWhere (· == '\n') l = [l] := fun {l} hl =>
    splitWhere_of_forall fun c hc => beq_false_of_ne fun heq => hl (heq ▸ hc)
  induction ls with
  | nil => exact hpiece hlast
  | cons l ls ih =>
      have hrest := ih fun l' hl' => hls l' (List.mem_cons_of_mem _ hl')
      have hsplit := splitWhere_append (· == '\n') l (ls.flatMap (· ++ ['\n']) ++ last)
        (c := '\n') rfl
      rw [hpiece (hls l List.mem_cons_self), hrest] at hsplit
      rw [List.flatMap_cons, List.append_assoc, List.append_assoc]
      exact hsplit

/-- **Lines that are ended are read back**, but for a carriage return at their ends. -/
theorem lines_ended {ls : List (List Char)} {last : List Char} (hls : ∀ l ∈ ls, '\n' ∉ l)
    (hlast : '\n' ∉ last) :
    lines (ls.flatMap (· ++ ['\n']) ++ last)
      = ls.map dropReturn ++ if last.isEmpty then [] else [last] := by
  rw [lines, splitWhere_ended hls hlast, List.reverse_append]
  simp

/-! ## Neighbours

Two characters that are next to each other in a joined text are so on one of its sides, or the last
one of a side and the first of the other. -/

/-- Two characters that stand side by side do so on one side of a third one. -/
theorem infix_of_append_cons {a b c : Char} (ha : c ≠ a) (hb : c ≠ b) {x y : List Char}
    (h : [a, b] <:+: x ++ c :: y) : [a, b] <:+: x ∨ [a, b] <:+: y := by
  induction x with
  | nil =>
      rw [List.nil_append, List.infix_cons_iff] at h
      rcases h with hprefix | hy
      · exact absurd (List.cons_prefix_cons.mp hprefix).1.symm ha
      · exact Or.inr hy
  | cons z x ih =>
      rw [List.cons_append, List.infix_cons_iff] at h
      rcases h with hprefix | hrest
      · -- the two letters stand side by side, so neither of them is the one between the parts
        obtain ⟨rfl, hnext⟩ := List.cons_prefix_cons.mp hprefix
        cases x with
        | nil => exact absurd (List.cons_prefix_cons.mp hnext).1.symm hb
        | cons w x =>
            have hw := (List.cons_prefix_cons.mp hnext).1
            exact Or.inl ⟨[], x, by rw [hw]; rfl⟩
      · rcases ih hrest with hx | hy
        · exact Or.inl (List.infix_cons_iff.mpr (Or.inr hx))
        · exact Or.inr hy

end DocCatalog.Text
