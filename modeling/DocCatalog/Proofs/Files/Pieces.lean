import DocCatalog.Files.Path
import DocCatalog.Proofs.Text.Splitting

/-!
# The pieces of paths

What stands between the slashes of a path that was put together from others.

* **`pieces_slash`**, **`pieces_intercalate`**: the pieces of paths with slashes between them.
* **`named_join`**: a joined path leads on from where the first one leads.
* **`names`**, **`pieces_tidy`**: a tidy path has the names of its parts, behind pieces that lead nowhere.
* **`parent_of_pieces`**: the pieces of the path above.
-/

namespace DocCatalog

namespace Path

/-! ## Slashes

A path is cut at its slashes, and what has no slash in it is one piece. -/

@[simp] theorem pieces_empty : pieces "" = [""] := by decide

/-- At a slash a path can be taken apart. -/
theorem pieces_slash (a b : String) : pieces (a ++ "/" ++ b) = pieces a ++ pieces b := by
  have hlist : (a ++ "/" ++ b).toList = a.toList ++ '/' :: b.toList := by
    rw [String.toList_append, String.toList_append, List.append_assoc]
    rfl
  rw [pieces, hlist, Text.splitWhere_append _ _ _ (by decide), List.map_append, pieces, pieces]

/-- A text without a slash is one piece. -/
theorem pieces_of_noSlash {s : String} (h : '/' ∉ s.toList) : pieces s = [s] := by
  have hall : ∀ c ∈ s.toList, (c == '/') = false := by
    intro c hc
    exact beq_false_of_ne fun heq => h (heq ▸ hc)
  rw [pieces, Text.splitWhere_of_forall hall, List.map_singleton, String.ofList_toList]

/-- No piece has a slash in it. -/
theorem slash_not_mem_piece {path piece : String} (h : piece ∈ pieces path) :
    '/' ∉ piece.toList := by
  obtain ⟨chars, hchars, rfl⟩ := List.mem_map.mp h
  rw [String.toList_ofList]
  intro hslash
  have hnot := Text.not_of_mem_splitWhere hchars hslash
  cases hnot

/-- Pieces with slashes between them are these pieces. -/
theorem pieces_intercalate (ps : List String) (hne : ps ≠ [])
    (h : ∀ p ∈ ps, '/' ∉ p.toList) : pieces ("/".intercalate ps) = ps := by
  induction ps with
  | nil => exact absurd rfl hne
  | cons p ps ih =>
      have hp := pieces_of_noSlash (h p List.mem_cons_self)
      cases ps with
      | nil => rw [String.intercalate_singleton, hp]
      | cons q qs =>
          rw [String.intercalate_cons_cons, pieces_slash, hp,
            ih (by simp) fun p hp => h p (List.mem_cons_of_mem _ hp)]
          rfl

/-! ## Joining

A joined path has the pieces of both, with a slash put between them if there is none. An absolute
path is not joined to anything. -/

/-- A path that ends in a slash has an empty last piece. -/
theorem pieces_of_endsInSlash {a : String} (h : endsInSlash a = true) :
    ∃ stem, a = stem ++ "/" ∧ pieces a = pieces stem ++ [""] := by
  obtain ⟨before, hbefore⟩ := List.getLast?_eq_some_iff.mp (eq_of_beq h)
  refine ⟨String.ofList before, ?_, ?_⟩
  · rw [← String.toList_inj, hbefore, String.toList_append, String.toList_ofList]
    rfl
  · have ha : a = String.ofList before ++ "/" ++ "" := by
      rw [← String.toList_inj, hbefore]
      simp
    rw [ha, pieces_slash, pieces_empty]

/-- A path that ends in no slash has a last piece, unless it is empty. -/
theorem endsInSlash_of_pieces {path n : String} {high : List String}
    (h : pieces path = high ++ [n]) (hn : n ≠ "") : endsInSlash path = false := by
  cases hends : endsInSlash path with
  | false => rfl
  | true =>
      obtain ⟨stem, -, hpieces⟩ := pieces_of_endsInSlash hends
      rw [hpieces] at h
      exact absurd (List.singleton_inj.mp (List.append_inj' h rfl).2).symm hn

/-- What is joined to a path stands behind pieces that lead where that path leads. -/
theorem pieces_join (a : String) {b : String} (hb : isAbsolute b = false) :
    ∃ stem, pieces (join a b) = stem ++ pieces b
      ∧ stem.filterMap Step.ofPiece? = named a := by
  simp only [join, hb, Bool.false_eq_true, if_false]
  -- a slash is put between the two only where there is none
  by_cases hempty : a.isEmpty = true
  · have ha : a = "" := String.isEmpty_iff.mp hempty
    subst ha
    exact ⟨[], by simp, by decide⟩
  · by_cases hslash : endsInSlash a = true
    · obtain ⟨stem, ha, hpieces⟩ := pieces_of_endsInSlash hslash
      refine ⟨pieces stem, ?_, ?_⟩
      · simp only [hslash, Bool.or_true, if_true]
        rw [ha, pieces_slash]
      · rw [named, hpieces, List.filterMap_append]
        simp [Step.ofPiece?]
    · refine ⟨pieces a, ?_, rfl⟩
      simp only [hempty, hslash, Bool.or_false, Bool.false_eq_true, if_false]
      exact pieces_slash a b

/-- **A joined path** goes where the first one goes and on from there, or where the second one goes
if that is absolute. -/
theorem named_join (a b : String) :
    named (join a b) = if isAbsolute b then named b else named a ++ named b := by
  cases hb : isAbsolute b with
  | true => simp [join, hb]
  | false =>
      obtain ⟨stem, hpieces, hstem⟩ := pieces_join a hb
      rw [named, hpieces, List.filterMap_append, hstem]
      rfl

/-! ## Tidy paths

Tidying leaves out pieces that lead nowhere. A dot in front is kept, and so is the slash of an
absolute path. -/

/-- The parts of a path that are names. -/
def names (path : String) : List String := (pieces path).filter fun p => p != "" && p != "."

/-- The parts of a path are its names, with what tells where it begins. -/
theorem components_eq (path : String) :
    components path =
      if isAbsolute path then "/" :: names path
      else if (pieces path).head? == some "." then "." :: names path
      else names path := rfl

/-- A piece that leads somewhere is not idle. -/
theorem isIdle_eq_false {n : String} {step : Step} (h : Step.ofPiece? n = some step)
    (hstep : step ≠ .here) : isIdle n = false := by
  refine Bool.eq_false_iff.mpr fun hidle => ?_
  rcases Bool.or_eq_true_iff.mp hidle with hempty | hdot
  · rw [eq_of_beq hempty] at h
    cases h
  · rw [eq_of_beq hdot] at h
    exact hstep (Option.some.inj h).symm

/-- What is not idle is a step. -/
theorem exists_step {n : String} (h : isIdle n = false) : ∃ step, Step.ofPiece? n = some step := by
  unfold Step.ofPiece?
  split
  · cases h
  · exact ⟨_, rfl⟩
  · exact ⟨_, rfl⟩
  · exact ⟨_, rfl⟩

/-- A name leads to what has it. -/
theorem ofPiece?_of_ne {n : String} (hempty : n ≠ "") (hdot : n ≠ ".") (hup : n ≠ "..") :
    Step.ofPiece? n = some (.into n) := by
  unfold Step.ofPiece?
  split
  · exact absurd rfl hempty
  · exact absurd rfl hdot
  · exact absurd rfl hup
  · rfl

/-- A path whose parts do not lead up leads down by its names. -/
theorem ofPiece?_of_mem_names {path n : String} (hup : ".." ∉ components path)
    (hn : n ∈ names path) : Step.ofPiece? n = some (.into n) := by
  have hne : n ≠ "" ∧ n ≠ "." := by simpa using (List.mem_filter.mp hn).2
  refine ofPiece?_of_ne hne.1 hne.2 ?_
  rintro rfl
  refine hup ?_
  rw [components_eq]
  split
  · exact List.mem_cons_of_mem _ hn
  · split
    · exact List.mem_cons_of_mem _ hn
    · exact hn

/-- A path whose first piece is not empty does not begin at the root. -/
theorem isAbsolute_of_pieces {path p : String} {rest : List String}
    (h : pieces path = p :: rest) (hp : p ≠ "") : isAbsolute path = false := by
  unfold isAbsolute
  cases hchars : path.toList with
  | nil => rfl
  | cons c r =>
      refine beq_false_of_ne fun hc => hp ?_
      rw [List.head?_cons] at hc
      rw [pieces, hchars, Option.some.inj hc] at h
      simp only [Text.splitWhere, beq_self_eq_true, if_true, List.map_cons, List.cons.injEq] at h
      exact h.1.symm

/-- **A tidy path has the names of its parts, behind pieces that lead nowhere.** It is absolute when
the path is. -/
theorem pieces_tidy (path : String) :
    isAbsolute (tidy path) = isAbsolute path
      ∧ ∃ lead, pieces (tidy path) = lead ++ names path
        ∧ (lead.filterMap Step.ofPiece?) ⊆ [.here] := by
  have hslash : ∀ n ∈ names path, '/' ∉ n.toList := by
    intro n hn
    exact slash_not_mem_piece (List.mem_filter.mp hn).1
  have hne : ∀ n ∈ names path, n ≠ "" := by
    intro n hn
    have := (List.mem_filter.mp hn).2
    simp only [Bool.and_eq_true, bne_iff_ne, ne_eq] at this
    exact this.1
  rw [tidy, components_eq]
  by_cases habsolute : isAbsolute path = true
  · -- two slashes in front, or one when there is no name
    have hpieces : pieces ("/".intercalate ("/" :: names path)) = ["", ""] ++ names path := by
      cases hnames : names path with
      | nil => decide
      | cons n ns =>
          rw [String.intercalate_cons_cons, pieces_slash, pieces_intercalate _ (by simp)
            (hnames ▸ hslash)]
          rfl
    simp only [habsolute, if_true]
    refine ⟨?_, ["", ""], hpieces, by simp [Step.ofPiece?]⟩
    cases hnames : names path with
    | nil => decide
    | cons n ns =>
        rw [String.intercalate_cons_cons, isAbsolute, String.toList_append, String.toList_append]
        rfl
  · have hnot : isAbsolute path = false := Bool.eq_false_iff.mpr habsolute
    simp only [hnot, Bool.false_eq_true, if_false]
    by_cases hdot : ((pieces path).head? == some ".") = true
    · have hpieces : pieces ("/".intercalate ("." :: names path)) = ["."] ++ names path := by
        refine pieces_intercalate _ (by simp) ?_
        intro n hn
        rcases List.mem_cons.mp hn with rfl | hn
        · decide
        · exact hslash n hn
      simp only [hdot, if_true]
      exact ⟨isAbsolute_of_pieces hpieces (by decide), ["."], hpieces, by simp [Step.ofPiece?]⟩
    · simp only [hdot, Bool.false_eq_true, if_false]
      cases hnames : names path with
      | nil => exact ⟨by decide, [""], by simp, by simp [Step.ofPiece?]⟩
      | cons n ns =>
          have hpieces := pieces_intercalate (n :: ns) (by simp) (hnames ▸ hslash)
          exact ⟨isAbsolute_of_pieces hpieces (hne n (hnames ▸ List.mem_cons_self)), [], hpieces,
            by simp⟩

/-! ## The path above

The path above a path leaves out its last piece that is not idle, and the idle ones around it. -/

/-- Idle pieces at the end make no difference. -/
theorem above_append {idles : List String} (h : ∀ p ∈ idles, isIdle p = true) (rest : List String) :
    above (idles ++ rest) = above rest := by
  induction idles with
  | nil => rfl
  | cons p idles ih =>
      rw [List.cons_append, above, if_pos (h p List.mem_cons_self)]
      exact ih fun q hq => h q (List.mem_cons_of_mem _ hq)

theorem above_dropWhile (rest : List String) : above (rest.dropWhile isIdle) = above rest := by
  rw [← above_append (List.all_eq_true.mp List.all_takeWhile) (rest.dropWhile isIdle),
    List.takeWhile_append_dropWhile]

/-- There is a last piece that leads somewhere, unless none does. -/
theorem idle_or_last (ps : List String) :
    (∀ p ∈ ps, isIdle p = true)
      ∨ ∃ front n idles, ps = front ++ n :: idles ∧ isIdle n = false
          ∧ ∀ p ∈ idles, isIdle p = true := by
  induction ps with
  | nil => exact Or.inl fun _ hp => (nomatch hp)
  | cons p ps ih =>
      rcases ih with hidle | ⟨front, n, idles, rfl, hn, hidles⟩
      · cases hp : isIdle p with
        | true => exact Or.inl (List.forall_mem_cons.mpr ⟨hp, hidle⟩)
        | false => exact Or.inr ⟨[], p, ps, rfl, hp, hidle⟩
      · exact Or.inr ⟨p :: front, n, idles, rfl, hn, hidles⟩

/-- The pieces of the path above are those in front of the last one that leads somewhere, without
those at their end that do not. -/
theorem parent_of_pieces {path n : String} {front idles : List String}
    (h : pieces path = front ++ n :: idles) (hn : isIdle n = false)
    (hidles : ∀ p ∈ idles, isIdle p = true) :
    ancestors path = path :: ancestors (parent path)
      ∧ ∃ low rest, front = low ++ rest ∧ (∀ p ∈ rest, isIdle p = true)
        ∧ pieces (parent path) = if low.isEmpty then ["", ""] else low := by
  -- the pieces are looked at from the end
  have habove : above (pieces path).reverse
      = front.reverse.dropWhile isIdle :: above front.reverse := by
    have hreverse : (pieces path).reverse = idles.reverse ++ n :: front.reverse := by
      rw [h]
      simp
    rw [hreverse, above_append fun p hp => hidles p (List.mem_reverse.mp hp), above,
      if_neg (by rw [hn]; exact Bool.false_ne_true)]
  have hparent : parent path = ofReversed (front.reverse.dropWhile isIdle) := by
    rw [parent, ancestors, habove]
    rfl
  have hpieces : pieces (ofReversed (front.reverse.dropWhile isIdle))
      = if (front.reverse.dropWhile isIdle).reverse.isEmpty then ["", ""]
        else (front.reverse.dropWhile isIdle).reverse := by
    rw [ofReversed, List.isEmpty_reverse]
    split
    · decide
    · next hne =>
        refine pieces_intercalate _ (by simpa using hne) fun p hp => ?_
        have hfront : p ∈ front := List.mem_reverse.mp
          (List.dropWhile_subset _ (List.mem_reverse.mp hp))
        exact slash_not_mem_piece (h ▸ List.mem_append_left _ hfront)
  refine ⟨?_, (front.reverse.dropWhile isIdle).reverse, (front.reverse.takeWhile isIdle).reverse,
    ?_, ?_, ?_⟩
  · have hrest : above (pieces (parent path)).reverse = above front.reverse := by
      rw [hparent, hpieces, ← above_dropWhile front.reverse]
      split
      · next hempty =>
          rw [List.isEmpty_reverse, List.isEmpty_iff] at hempty
          rw [hempty]
          decide
      · rw [List.reverse_reverse]
    rw [ancestors, habove, List.map_cons, ancestors, hrest, hparent]
  · rw [← List.reverse_append, List.takeWhile_append_dropWhile, List.reverse_reverse]
  · intro p hp
    exact List.all_eq_true.mp List.all_takeWhile p (List.mem_reverse.mp hp)
  · rw [hparent, hpieces]

end Path

end DocCatalog
