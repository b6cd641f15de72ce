import DocCatalog.Text.Blank
import DocCatalog.Proofs.Text.Splitting

/-!
# Texts without blanks at their ends

* **`Trimmed`**: a text that neither begins nor ends with a blank.
* **`trimmed_trim`**, **`Trimmed.trim_eq`**: trimming makes such a text, and changes none.
* **`trim_append_blank`**, **`trim_append`**, **`trim_infix`**: what trimming takes away, and what it leaves.
* **`IsBlanks`**: what separates two texts.
* **`mem_join`**, **`splitWhere_join`**, **`trimmed_join`**, **`infix_of_join`**: texts that are joined.
-/

namespace DocCatalog.Text

/-- The text neither begins nor ends with a blank. -/
structure Trimmed (s : List Char) : Prop where
  first : ∀ c ∈ s.head?, isBlank c = false
  last : ∀ c ∈ s.getLast?, isBlank c = false

/-- The text is made of blanks, of one at least. -/
structure IsBlanks (s : List Char) : Prop where
  ne_nil : s ≠ []
  blank : ∀ c ∈ s, isBlank c = true

instance : DecidablePred IsBlanks := fun s =>
  decidable_of_iff (s ≠ [] ∧ s.all isBlank = true)
    ⟨fun ⟨hne, hblank⟩ => ⟨hne, List.all_eq_true.mp hblank⟩,
      fun h => ⟨h.ne_nil, List.all_eq_true.mpr h.blank⟩⟩

variable {s : List Char}

/-! ## One end

What is said of the end is said of the start of the reversed text first. -/

/-- What is left of a text without its leading blanks does not begin with one. -/
theorem head?_trimStart (s : List Char) : ∀ c ∈ (trimStart s).head?, isBlank c = false := by
  intro c hc
  have hhead := List.head?_dropWhile_not isBlank s
  rw [show (s.dropWhile isBlank).head? = some c from hc] at hhead
  simpa using hhead

/-- A text that begins with no blank is left as it is. -/
theorem trimStart_eq (h : ∀ c ∈ s.head?, isBlank c = false) : trimStart s = s := by
  cases s with
  | nil => rfl
  | cons c s => exact List.dropWhile_cons_of_neg (by simp [h c rfl])

/-- Trimming the end is trimming the start of the reversed text, so that what holds at one end holds
at the other. -/
theorem trimEnd_eq_reverse (s : List Char) : trimEnd s = (trimStart s.reverse).reverse := rfl

/-- What is left of a text without its trailing blanks does not end with one. -/
theorem getLast?_trimEnd (s : List Char) : ∀ c ∈ (trimEnd s).getLast?, isBlank c = false := by
  rw [trimEnd_eq_reverse, List.getLast?_reverse]
  exact head?_trimStart s.reverse

/-- A text that ends with no blank is left as it is. -/
theorem trimEnd_eq (h : ∀ c ∈ s.getLast?, isBlank c = false) : trimEnd s = s := by
  rw [← List.head?_reverse] at h
  rw [trimEnd_eq_reverse, trimStart_eq h, List.reverse_reverse]

/-- Only the front of a text is taken off. -/
theorem trimStart_suffix (s : List Char) : trimStart s <:+ s := List.dropWhile_suffix isBlank

/-- Only the back of a text is taken off. -/
theorem trimEnd_prefix (s : List Char) : trimEnd s <+: s := by
  have hsuffix := List.reverse_prefix.mpr (trimStart_suffix s.reverse)
  rwa [List.reverse_reverse] at hsuffix

/-! ## Both ends

The start is trimmed before the end. The two do not meet, unless the text has nothing but blanks. -/

/-- A trimmed text has nothing to lose at either end. -/
theorem Trimmed.trim_eq (h : Trimmed s) : trim s = s := by
  rw [trim, trimStart_eq h.first, trimEnd_eq h.last]

/-- Trimming the end does not bring a blank to the front: the first character is the same, unless
there is none. -/
theorem trimmed_trim (s : List Char) : Trimmed (trim s) := by
  refine ⟨fun c hc => ?_, getLast?_trimEnd _⟩
  -- what is left after the blanks at the end begins as it did
  obtain ⟨rest, hrest⟩ := trimEnd_prefix (trimStart s)
  refine head?_trimStart s c ?_
  rw [← hrest, List.head?_append, show (trimEnd (trimStart s)).head? = some c from hc]
  rfl

/-- Trimmed texts are those that trimming leaves alone, which can be decided. -/
theorem trimmed_iff : Trimmed s ↔ trim s = s :=
  ⟨Trimmed.trim_eq, fun h => h ▸ trimmed_trim s⟩

instance : DecidablePred Trimmed := fun _ => decidable_of_iff _ trimmed_iff.symm

/-- With no blank in front, all that is taken off is at the end. -/
theorem trim_prefix (h : ∀ c ∈ s.head?, isBlank c = false) : trim s <+: s := by
  rw [trim, trimStart_eq h]
  exact trimEnd_prefix s

/-- What trimming leaves is a part of the text. -/
theorem trim_infix (s : List Char) : trim s <:+: s := by
  have hend := trimEnd_prefix (trimStart s)
  exact hend.isInfix.trans (trimStart_suffix s).isInfix

/-- One more blank at the end is taken off with the others. -/
theorem trimEnd_append_blank {c : Char} (hc : isBlank c = true) (s : List Char) :
    trimEnd (s ++ [c]) = trimEnd s := by
  rw [trimEnd_eq_reverse, List.reverse_append, List.reverse_singleton, List.singleton_append,
    trimStart, List.dropWhile_cons_of_pos hc, ← trimStart, ← trimEnd_eq_reverse]

/-- **A blank at the end is taken away.** -/
theorem trim_append_blank {c : Char} (hc : isBlank c = true) (s : List Char) :
    trim (s ++ [c]) = trim s := by
  have hstart : trimStart (s ++ [c])
      = if (trimStart s).isEmpty then [] else trimStart s ++ [c] := by
    rw [trimStart, List.dropWhile_append, List.dropWhile_cons_of_pos hc]
    rfl
  rw [trim, trim, hstart]
  by_cases hempty : (trimStart s).isEmpty = true
  · rw [if_pos hempty, List.isEmpty_iff.mp hempty]
  · rw [if_neg hempty, trimEnd_append_blank hc]

/-- Blanks in front are taken away. -/
theorem trimStart_append {blanks : List Char} (h : ∀ c ∈ blanks, isBlank c = true) (s : List Char) :
    trimStart (blanks ++ s) = trimStart s := List.dropWhile_append_of_pos h

/-- Blanks in front of a text are taken off with its own. -/
theorem trim_append {blanks : List Char} (h : ∀ c ∈ blanks, isBlank c = true) (s : List Char) :
    trim (blanks ++ s) = trim s := by
  rw [trim, trimStart_append h, ← trim]

/-- Trimming the start first makes no difference. -/
theorem trim_trimStart (s : List Char) : trim (trimStart s) = trim s := by
  rw [trim, trimStart_eq (head?_trimStart s), ← trim]

/-- Trimming ends in front of a character that is no blank. -/
theorem trimStart_append_cons {c : Char} (hc : isBlank c = false) (s rest : List Char) :
    trimStart (s ++ c :: rest) = trimStart s ++ c :: rest := by
  have hstop : trimStart (c :: rest) = c :: rest :=
    List.dropWhile_cons_of_neg (Bool.eq_false_iff.mp hc)
  rw [trimStart, List.dropWhile_append, ← trimStart, ← trimStart, hstop]
  split
  · next hempty => rw [List.isEmpty_iff.mp hempty, List.nil_append]
  · rfl

/-- A carriage return at the end of a line is a blank, so that a trimmed line does not tell whether
it had one. -/
theorem trim_dropReturn (line : List Char) : trim (dropReturn line) = trim line := by
  unfold dropReturn
  split
  · next hlast =>
      obtain ⟨start, rfl⟩ := List.getLast?_eq_some_iff.mp hlast
      rw [List.dropLast_concat, trim_append_blank (by decide)]
  · rfl

/-! ## Joining

A text that is joined of pieces is met again when it is split. With a separator that is no part of a
piece nothing else is found, neither a piece nor what stands in one. -/

/-- A separator follows every piece but the last one. -/
theorem join_cons_cons (sep a b : List Char) (ls : List (List Char)) :
    join sep (a :: b :: ls) = a ++ sep ++ join sep (b :: ls) := rfl

/-- An empty piece at the end is a separator at the end. -/
theorem join_concat_nil (sep : List Char) {ls : List (List Char)} (h : ls ≠ []) :
    join sep (ls ++ [[]]) = join sep ls ++ sep := by
  induction ls with
  | nil => exact absurd rfl h
  | cons a ls ih =>
      cases ls with
      | nil => exact List.append_nil _
      | cons b ls =>
          have hrest := ih (List.cons_ne_nil b ls)
          rw [List.cons_append, List.cons_append, join_cons_cons, ← List.cons_append, hrest,
            join_cons_cons, List.append_assoc _ _ sep]

/-- A character of a joined text separates two pieces or stands in one of them. -/
theorem mem_join {sep : List Char} {c : Char} {ls : List (List Char)} (h : c ∈ join sep ls) :
    c ∈ sep ∨ ∃ l ∈ ls, c ∈ l := by
  -- along the pieces: a character is in the first one, in the separator, or further on
  induction ls with
  | nil => cases h
  | cons a ls ih =>
      cases ls with
      | nil => exact Or.inr ⟨a, List.mem_singleton_self a, h⟩
      | cons b ls =>
          rw [join_cons_cons, List.append_assoc] at h
          rcases List.mem_append.mp h with ha | h
          · exact Or.inr ⟨a, List.mem_cons_self, ha⟩
          · rcases List.mem_append.mp h with hsep | hrest
            · exact Or.inl hsep
            · refine (ih hrest).imp_right fun ⟨l, hl, hc⟩ => ⟨l, List.mem_cons_of_mem a hl, hc⟩

/-- **Pieces are read back** between what separates them. -/
theorem splitWhere_join {p : Char → Bool} {sep : Char} (hsep : p sep = true) {ls : List (List Char)}
    (hne : ls ≠ []) (h : ∀ l ∈ ls, ∀ c ∈ l, p c = false) : splitWhere p (join [sep] ls) = ls := by
  induction ls with
  | nil => exact absurd rfl hne
  | cons a ls ih =>
      have ha := splitWhere_of_forall (h a List.mem_cons_self)
      cases ls with
      | nil => exact ha
      | cons b ls =>
          have hrest := ih (List.cons_ne_nil b ls) fun l hl => h l (List.mem_cons_of_mem a hl)
          rw [join_cons_cons, List.append_assoc, List.singleton_append, splitWhere_append p a _ hsep,
            ha, hrest, List.singleton_append]

/-- What stands between two texts that are not empty is not at an end. -/
theorem Trimmed.append {x y : List Char} (hx : Trimmed x) (hy : Trimmed y) (hnx : x ≠ [])
    (hny : y ≠ []) (between : List Char) : Trimmed (x ++ between ++ y) := by
  refine ⟨fun c hc => hx.first c ?_, fun c hc => hy.last c ?_⟩
  · obtain ⟨d, x, rfl⟩ := List.exists_cons_of_ne_nil hnx
    exact hc
  · rwa [List.getLast?_append, Option.or_of_isSome (List.getLast?_isSome.mpr hny)] at hc

/-- Pieces that are trimmed and not empty join to such a text again: its ends are those of its outer
pieces. -/
theorem trimmed_join {sep : List Char} {ls : List (List Char)}
    (h : ∀ l ∈ ls, Trimmed l ∧ l ≠ []) :
    Trimmed (join sep ls) ∧ (ls ≠ [] → join sep ls ≠ []) := by
  -- along the pieces, of which the last one has no separator behind it
  induction ls with
  | nil => exact ⟨⟨fun _ hc => (nomatch hc), fun _ hc => (nomatch hc)⟩, fun hne => absurd rfl hne⟩
  | cons a ls ih =>
      obtain ⟨ha, hna⟩ := h a List.mem_cons_self
      obtain ⟨hrest, hne⟩ := ih fun l hl => h l (List.mem_cons_of_mem _ hl)
      cases ls with
      | nil => exact ⟨ha, fun _ => hna⟩
      | cons b ls =>
          rw [join_cons_cons]
          refine ⟨ha.append hrest hna (hne (List.cons_ne_nil b ls)) sep, fun _ hnil => ?_⟩
          exact hna (List.append_eq_nil_iff.mp (List.append_eq_nil_iff.mp hnil).1).1

/-- Two characters that stand side by side in a joined text do so in one of its pieces, unless one
of them separates the pieces. -/
theorem infix_of_join {a b c : Char} (ha : c ≠ a) (hb : c ≠ b) {ls : List (List Char)}
    (h : [a, b] <:+: join [c] ls) : ∃ l ∈ ls, [a, b] <:+: l := by
  -- along the pieces: neither character of the separator is the one that is looked for
  induction ls with
  | nil => exact absurd (List.infix_nil.mp h) (List.cons_ne_nil _ _)
  | cons l ls ih =>
      cases ls with
      | nil => exact ⟨l, List.mem_cons_self, h⟩
      | cons m ls =>
          rw [join_cons_cons, List.append_assoc, List.singleton_append] at h
          rcases infix_of_append_cons ha hb h with hl | hrest
          · exact ⟨l, List.mem_cons_self, hl⟩
          · obtain ⟨l', hl', hinfix⟩ := ih hrest
            exact ⟨l', List.mem_cons_of_mem _ hl', hinfix⟩

end DocCatalog.Text
