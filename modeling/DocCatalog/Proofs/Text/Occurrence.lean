import DocCatalog.Text.Mention
import DocCatalog.Proofs.Text.Trimmed

/-!
# What stands in a text

* **`contains_iff`**: a part of a text.
* **`infix_trim_iff`**, **`prefix_trim_iff`**: a part without blanks at its ends is not trimmed away.
* **`WholeWord`**: an occurrence of a name with an end of a word at both of its ends, whatever the case.
* **`mentions_iff`**: a text mentions a name if there is such an occurrence.
-/

namespace DocCatalog.Text

/-! ## Parts

A text that is a part of another one is a part of it when trimmed, as long as it neither begins nor
ends with a blank itself. -/

/-- The search tries every place, so it finds a part wherever it is. -/
theorem contains_iff {part s : List Char} : contains part s = true ↔ part <:+: s := by
  induction s with
  | nil => rw [contains, List.isEmpty_iff, List.infix_nil]
  | cons c s ih => rw [contains, Bool.or_eq_true, List.isPrefixOf_iff_prefix, ih, List.infix_cons_iff]

/-- A part that begins with no blank is not in the blanks in front of a text. -/
theorem infix_trimStart_iff {part : List Char} (hne : part ≠ [])
    (hfirst : ∀ c ∈ part.head?, isBlank c = false) (s : List Char) :
    part <:+: trimStart s ↔ part <:+: s := by
  refine ⟨fun h => h.trans (trimStart_suffix s).isInfix, fun h => ?_⟩
  induction s with
  | nil => exact h
  | cons c s ih =>
      cases hc : isBlank c with
      | false => rwa [trimStart, List.dropWhile_cons_of_neg (Bool.eq_false_iff.mp hc)]
      | true =>
          rw [trimStart, List.dropWhile_cons_of_pos hc]
          rcases List.infix_cons_iff.mp h with hprefix | hrest
          · obtain ⟨d, part, rfl⟩ := List.exists_cons_of_ne_nil hne
            have hd := hfirst d rfl
            rw [(List.cons_prefix_cons.mp hprefix).1, hc] at hd
            cases hd
          · exact ih hrest

/-- Trimming takes nothing off a part that begins and ends with other characters than blanks. -/
theorem infix_trim_iff {part : List Char} (hne : part ≠ []) (h : Trimmed part) (s : List Char) :
    part <:+: trim s ↔ part <:+: s := by
  have hlast : ∀ c ∈ part.reverse.head?, isBlank c = false := by
    rw [List.head?_reverse]
    exact h.last
  have hend := infix_trimStart_iff (List.reverse_ne_nil_iff.mpr hne) hlast (trimStart s).reverse
  rw [trim, trimEnd_eq_reverse, ← List.reverse_infix, List.reverse_reverse, hend, List.reverse_infix,
    infix_trimStart_iff hne h.first]

/-- What a text begins with behind its blanks, it begins with when it is trimmed. -/
theorem prefix_trim_iff {part : List Char} (h : ∀ c ∈ part.getLast?, isBlank c = false)
    (s : List Char) : part <+: trim s ↔ part <+: trimStart s := by
  have htrim : trim s <+: trimStart s := trimEnd_prefix _
  refine ⟨fun hpart => hpart.trans htrim, ?_⟩
  rintro ⟨rest, hrest⟩
  cases hlast : part.getLast? with
  | none =>
      rw [List.getLast?_eq_none_iff.mp hlast]
      exact List.nil_prefix
  | some c =>
      obtain ⟨front, rfl⟩ := List.getLast?_eq_some_iff.mp hlast
      have hc := h c hlast
      have hreverse : (front ++ [c] ++ rest).reverse = rest.reverse ++ c :: front.reverse := by simp
      rw [trim, ← hrest, trimEnd_eq_reverse, hreverse, trimStart_append_cons hc]
      refine ⟨(trimStart rest.reverse).reverse, ?_⟩
      simp

/-! ## Words

A name is looked for at every place of a text in turn. It is a whole word there when word characters
and others meet at both of its ends. The letters are compared after folding their case, which keeps
their number. -/

/-- Between the texts, a word begins or ends. -/
def IsWordEnd (front back : List Char) : Prop := isWord? front.getLast? ≠ isWord? back.head?

/-- The name stands in the text as a whole word, whatever the case of either. -/
def WholeWord (name text : List Char) : Prop :=
  ∃ front occurrence back, text = front ++ occurrence ++ back
    ∧ occurrence.map foldCase = name.map foldCase
    ∧ IsWordEnd front (occurrence ++ back) ∧ IsWordEnd (front ++ occurrence) back

/-- The reader of a name takes as many characters as the name has, each of which folds to the one
that is asked for. -/
theorem afterName?_eq_some_iff {name text rest : List Char} :
    afterName? name text = some rest
      ↔ ∃ occurrence, text = occurrence ++ rest ∧ occurrence.map foldCase = name.map foldCase := by
  induction name generalizing text with
  | nil =>
      rw [afterName?, Option.some.injEq]
      constructor
      · rintro rfl
        exact ⟨[], rfl, rfl⟩
      · rintro ⟨occurrence, rfl, hfold⟩
        rw [List.map_eq_nil_iff.mp hfold, List.nil_append]
  | cons a name ih =>
      -- the first characters agree after folding, and the rest is asked for the rest of the name
      cases text with
      | nil =>
          rw [afterName?]
          constructor
          · intro h
            cases h
          · rintro ⟨occurrence, htext, hfold⟩
            rw [(List.append_eq_nil_iff.mp htext.symm).1] at hfold
            cases hfold
      | cons b text =>
          rw [afterName?]
          constructor
          · intro h
            split at h
            · next hfold =>
                obtain ⟨occurrence, rfl, hrest⟩ := ih.mp h
                refine ⟨b :: occurrence, rfl, ?_⟩
                rw [List.map_cons, List.map_cons, hrest, beq_iff_eq.mp hfold]
            · cases h
          · rintro ⟨occurrence, htext, hfold⟩
            cases occurrence with
            | nil => cases hfold
            | cons c occurrence =>
                obtain ⟨rfl, rfl⟩ := List.cons.inj htext
                obtain ⟨hfirst, hrest⟩ := List.cons.inj hfold
                rw [if_pos (beq_iff_eq.mpr hfirst.symm)]
                exact ih.mpr ⟨occurrence, rfl, hrest⟩

/-- The two sides of a place are told by the last character before it and the first one behind it.
-/
theorem isBoundary_iff {front back : List Char} :
    isBoundary front.getLast? back.head? = true ↔ IsWordEnd front back := bne_iff_ne

/-- The last character in front of what follows an occurrence. -/
theorem getLast?_behind (front occurrence : List Char) :
    (front.getLast? :: occurrence.map some).getLast?.getD none = (front ++ occurrence).getLast? := by
  cases hlast : occurrence.getLast? with
  | none =>
      rw [List.getLast?_eq_none_iff.mp hlast, List.append_nil]
      rfl
  | some c =>
      obtain ⟨start, rfl⟩ := List.getLast?_eq_some_iff.mp hlast
      rw [List.map_append, List.map_singleton, ← List.append_assoc, List.getLast?_concat,
        ← List.cons_append, List.getLast?_concat]
      rfl

/-- **At one place** a name is mentioned when its characters stand there and both ends are word
ends. -/
theorem mentionedHere_iff {name front text : List Char} :
    mentionedHere name front.getLast? text = true
      ↔ ∃ occurrence back, text = occurrence ++ back ∧ occurrence.map foldCase = name.map foldCase
        ∧ IsWordEnd front (occurrence ++ back) ∧ IsWordEnd (front ++ occurrence) back := by
  have hlength : ∀ {occurrence : List Char}, occurrence.map foldCase = name.map foldCase →
      occurrence.length = name.length := fun {occurrence} hfold => by
    have hmapped := congrArg List.length hfold
    rwa [List.length_map, List.length_map] at hmapped
  have hend : ∀ {occurrence back : List Char}, text = occurrence ++ back →
      occurrence.map foldCase = name.map foldCase →
      (front.getLast? :: (text.take name.length).map some).getLast?.getD none
        = (front ++ occurrence).getLast? := fun {occurrence back} htext hfold => by
    rw [htext, ← hlength hfold, List.take_left, getLast?_behind]
  rw [mentionedHere, Bool.and_eq_true, isBoundary_iff]
  -- the end of what was read is told by its last character or, if the name is empty, by the one
  -- before it
  constructor
  · rintro ⟨hbegin, hmatch⟩
    cases hafter : afterName? name text with
    | none =>
        rw [hafter] at hmatch
        cases hmatch
    | some back =>
        obtain ⟨occurrence, htext, hfold⟩ := afterName?_eq_some_iff.mp hafter
        rw [hafter] at hmatch
        dsimp only at hmatch
        rw [hend htext hfold, isBoundary_iff] at hmatch
        exact ⟨occurrence, back, htext, hfold, htext ▸ hbegin, hmatch⟩
  · rintro ⟨occurrence, back, htext, hfold, hbegin, hbehind⟩
    refine ⟨htext ▸ hbegin, ?_⟩
    rw [afterName?_eq_some_iff.mpr ⟨occurrence, htext, hfold⟩]
    dsimp only
    rw [hend htext hfold, isBoundary_iff]
    exact hbehind

/-- **From one place on** a name is mentioned when it is at a place that is reached by passing some
characters. What was passed stays in front, since the first end depends on it. -/
theorem mentionedFrom_iff (name front text : List Char) :
    mentionedFrom name front.getLast? text = true
      ↔ ∃ passed occurrence back, text = passed ++ occurrence ++ back
        ∧ occurrence.map foldCase = name.map foldCase
        ∧ IsWordEnd (front ++ passed) (occurrence ++ back)
        ∧ IsWordEnd (front ++ passed ++ occurrence) back := by
  induction text generalizing front with
  | nil =>
      rw [mentionedFrom, mentionedHere_iff]
      -- at the end of the text nothing is passed
      constructor
      · rintro ⟨occurrence, back, htext, hfold, hbegin, hbehind⟩
        refine ⟨[], occurrence, back, htext, hfold, ?_⟩
        rw [List.append_nil]
        exact ⟨hbegin, hbehind⟩
      · rintro ⟨passed, occurrence, back, htext, hfold, hbegin, hbehind⟩
        have hpassed := (List.append_eq_nil_iff.mp (List.append_eq_nil_iff.mp htext.symm).1).1
        rw [hpassed, List.append_nil] at hbegin hbehind
        rw [hpassed, List.nil_append] at htext
        exact ⟨occurrence, back, htext, hfold, hbegin, hbehind⟩
  | cons c text ih =>
      have hnext : some c = (front ++ [c]).getLast? := List.getLast?_concat.symm
      rw [mentionedFrom, Bool.or_eq_true, mentionedHere_iff, hnext, ih]
      -- the name is mentioned at once, or behind one more character that is passed
      constructor
      · rintro (⟨occurrence, back, htext, hfold, hends⟩ | ⟨passed, occurrence, back, htext, hfold, hends⟩)
        · refine ⟨[], occurrence, back, htext, hfold, ?_⟩
          rwa [List.append_nil]
        · refine ⟨c :: passed, occurrence, back, by rw [htext]; rfl, hfold, ?_⟩
          rwa [List.append_cons]
      · rintro ⟨passed, occurrence, back, htext, hfold, hends⟩
        cases passed with
        | nil =>
            rw [List.append_nil] at hends
            exact Or.inl ⟨occurrence, back, htext, hfold, hends⟩
        | cons d passed =>
            obtain ⟨rfl, rfl⟩ := List.cons.inj htext
            rw [List.append_cons] at hends
            exact Or.inr ⟨passed, occurrence, back, rfl, hfold, hends⟩

/-- **A text mentions a name** if the name stands in it as a whole word. -/
theorem mentions_iff {name text : List Char} : mentions name text = true ↔ WholeWord name text :=
  mentionedFrom_iff name [] text

end DocCatalog.Text
