import DocCatalog.Doc.Comment
import DocCatalog.Proofs.Text.Trimmed

/-!
# Lines that begin tags

* **`isTagShape`**, **`isTagShape_of_tagLine?`**: only lines of a certain shape begin a tag.
* **`IsTagWord`**, **`IsTagName`**: all names of tags, and those in ASCII.
* **`tagLine?_trim`**: the line of a tag is read back, with nothing and with a text behind its name.
-/

namespace DocCatalog.Doc

/-- Further characters of a name, and then nothing or a blank. -/
def isTagRest : Line → Bool
  | [] => true
  | c :: r => Text.isBlank c || (isTagChar c && isTagRest r)

/-- A letter behind an at sign, further characters of a name, and then nothing or a blank. -/
def isTagShape : Line → Bool
  | '@' :: c :: r => c.isAlpha && isTagRest r
  | _ => false

/-- The name is one that a tag can have: an ASCII letter, and further characters of names. -/
structure IsTagWord (name : Line) : Prop where
  letter : name.head?.any Char.isAlpha = true
  chars : ∀ c ∈ name, isTagChar c = true

instance : DecidablePred IsTagWord := fun name =>
  decidable_of_iff (name.head?.any Char.isAlpha = true ∧ name.all isTagChar = true)
    ⟨fun ⟨hletter, hchars⟩ => ⟨hletter, List.all_eq_true.mp hchars⟩,
      fun h => ⟨h.letter, List.all_eq_true.mpr h.chars⟩⟩

/-- A character of a name in ASCII behind its first letter. -/
def isNameChar (c : Char) : Bool := c.isAlphanum || c == '_' || c == '-'

/-- The name begins with a letter. -/
structure IsTagName (name : Line) : Prop where
  letter : name.head?.any Char.isAlpha = true
  chars : ∀ c ∈ name, isNameChar c = true

instance : DecidablePred IsTagName := fun name =>
  decidable_of_iff (name.head?.any Char.isAlpha = true ∧ name.all isNameChar = true)
    ⟨fun ⟨hletter, hchars⟩ => ⟨hletter, List.all_eq_true.mp hchars⟩,
      fun h => ⟨h.letter, List.all_eq_true.mpr h.chars⟩⟩

/-! ## Characters of names

No blank is a character of a name: the word characters lie in ranges with no blank among them. So
the name of a tag ends at the first blank. -/

/-- The plain characters of names lie in this range. -/
theorem toNat_of_isNameChar {c : Char} (h : isNameChar c = true) :
    45 ≤ c.toNat ∧ c.toNat ≤ 122 := by
  delta isNameChar Char.isAlphanum Char.isAlpha Char.isUpper Char.isLower Char.isDigit at h
  simp only [Bool.or_eq_true, Bool.and_eq_true, decide_eq_true_eq, beq_iff_eq, ge_iff_le,
    UInt32.le_iff_toNat_le] at h
  have hc : c.val.toNat = c.toNat := rfl
  have hA : 'A'.val.toNat = 65 := rfl
  have hZ : 'Z'.val.toNat = 90 := rfl
  have ha : 'a'.val.toNat = 97 := rfl
  have hz : 'z'.val.toNat = 122 := rfl
  have hzero : '0'.val.toNat = 48 := rfl
  have hnine : '9'.val.toNat = 57 := rfl
  rcases h with (hletter | rfl) | rfl
  · omega
  · decide
  · decide

theorem isTagChar_of_isNameChar {c : Char} (h : isNameChar c = true) : isTagChar c = true := by
  have hascii : c.toNat < 128 := by
    have := toNat_of_isNameChar h
    omega
  rw [isNameChar, Bool.or_eq_true, Bool.or_eq_true] at h
  rw [isTagChar, Text.isWordChar, if_pos hascii, Bool.or_eq_true, Bool.or_eq_true]
  exact h

/-- A plain name is a name. -/
theorem IsTagName.isTagWord {name : Line} (h : IsTagName name) : IsTagWord name :=
  ⟨h.letter, fun c hc => isTagChar_of_isNameChar (h.chars c hc)⟩

theorem toNat_of_isBlank {c : Char} (h : Text.isBlank c = true) :
    c.toNat ≤ 32 ∨ c.toNat = 0x85 ∨ c.toNat = 0xa0 ∨ c.toNat = 0x1680
      ∨ (0x2000 ≤ c.toNat ∧ c.toNat ≤ 0x200a) ∨ c.toNat = 0x2028 ∨ c.toNat = 0x2029
      ∨ c.toNat = 0x202f ∨ c.toNat = 0x205f ∨ c.toNat = 0x3000 := by
  simp only [Text.isBlank, Bool.or_eq_true, Bool.and_eq_true, decide_eq_true_eq, beq_iff_eq] at h
  rcases h with (((((((((hcontrol | rfl) | rfl) | rfl) | rfl) | hspace) | rfl) | rfl) | rfl) | rfl) | rfl
  · omega
  iterate 4 decide
  · omega
  all_goals decide

/-- The blanks beyond ASCII lie between the ranges of word characters. -/
theorem wordRanges_between : Text.wordRanges.toList.all (fun range =>
    [(0x85, 0xa0), (0xa0, 0x1680), (0x1680, 0x2000), (0x200a, 0x2028), (0x2029, 0x202f),
      (0x202f, 0x205f), (0x205f, 0x3000), (0x3000, 0x110000)].any fun gap =>
        Nat.blt gap.1 range.1 && Nat.blt range.2 gap.2) = true := by
  decide +kernel

/-- **No blank is part of a name.** -/
theorem isBlank_of_isTagChar {c : Char} (h : isTagChar c = true) : Text.isBlank c = false := by
  refine Bool.eq_false_iff.mpr fun hblank => ?_
  have hplace := toNat_of_isBlank hblank
  -- the table of word characters is for all behind ASCII, and blanks stand in both parts
  by_cases hascii : c.toNat < 128
  · rw [isTagChar, Text.isWordChar, if_pos hascii] at h
    have := toNat_of_isNameChar h
    omega
  · rw [isTagChar, Text.isWordChar, if_neg hascii, Text.inRanges, ← Array.any_toList,
      Bool.or_eq_true, List.any_eq_true, beq_iff_eq] at h
    rcases h with ⟨range, hrange, hin⟩ | rfl
    · -- each blank behind ASCII is in a gap between two of the ranges
      obtain ⟨gap, hgap, hbetween⟩ :=
        List.any_eq_true.mp (List.all_eq_true.mp wordRanges_between range hrange)
      simp only [Bool.and_eq_true, decide_eq_true_eq] at hin
      simp only [Bool.and_eq_true, Nat.blt_eq] at hbetween
      simp only [List.mem_cons, List.not_mem_nil, or_false] at hgap
      rcases hgap with rfl | rfl | rfl | rfl | rfl | rfl | rfl | rfl <;> omega
    · exact hascii (by decide)

/-! ## Which lines begin a tag

Whether a line begins a tag is asked in two forms, one of which also takes it apart. -/

/-- The name goes as far as it can. -/
theorem tagLine?_eq (r : Line) :
    tagLine? ('@' :: r)
      = if !((r.takeWhile isTagChar).head?.map Char.isAlpha).getD false then none
        else if (r.dropWhile isTagChar).isEmpty then some (r.takeWhile isTagChar, [])
        else if (Text.trimStart (r.dropWhile isTagChar)).length < (r.dropWhile isTagChar).length
            && !(Text.trimStart (r.dropWhile isTagChar)).contains '\n' then
          some (r.takeWhile isTagChar, Text.trimStart (r.dropWhile isTagChar))
        else none := by
  have hdrop : r.drop (r.takeWhile isTagChar).length = r.dropWhile isTagChar := by
    have hr := congrArg (List.drop (r.takeWhile isTagChar).length)
      (@List.takeWhile_append_dropWhile _ isTagChar r)
    rw [List.drop_left] at hr
    exact hr.symm
  simp only [tagLine?, hdrop]

/-- A name with a blank or nothing behind it. -/
theorem isTagRest_append {name rest : Line} (hname : ∀ c ∈ name, isTagChar c = true)
    (hrest : ∀ c ∈ rest.head?, Text.isBlank c = true) : isTagRest (name ++ rest) = true := by
  induction name with
  | nil =>
      cases rest with
      | nil => rfl
      | cons c rest => simp [isTagRest, hrest c rfl]
  | cons c name ih =>
      have hc := hname c List.mem_cons_self
      have hrec := ih fun x hx => hname x (List.mem_cons_of_mem c hx)
      simp [isTagRest, hc, hrec]

/-- **Only a line of this shape begins a tag.** -/
theorem isTagShape_of_tagLine? {line : Line} {found : Line × Line}
    (h : tagLine? line = some found) : isTagShape line = true := by
  cases line with
  | nil => cases h
  | cons a r =>
      by_cases ha : a = '@'
      · subst ha
        rw [tagLine?_eq] at h
        have hr := @List.takeWhile_append_dropWhile _ isTagChar r
        have hname := List.all_eq_true.mp (@List.all_takeWhile _ isTagChar r)
        generalize r.takeWhile isTagChar = name at *
        generalize r.dropWhile isTagChar = rest at *
        cases name with
        | nil => simp at h
        | cons c name =>
            by_cases hc : c.isAlpha = true
            · have hblank : ∀ x ∈ rest.head?, Text.isBlank x = true := by
                intro x hx
                cases hx' : Text.isBlank x with
                | true => rfl
                | false =>
                    -- nothing would be trimmed off the text behind the name
                    have htrim : Text.trimStart rest = rest :=
                      Text.trimStart_eq fun y hy => by
                        rw [hx] at hy
                        cases hy
                        exact hx'
                    have hempty : rest.isEmpty = false := by
                      cases rest with
                      | nil => cases hx
                      | cons y rest => rfl
                    simp [hc, hempty, htrim] at h
              have hrest := isTagRest_append
                (fun x hx => hname x (List.mem_cons_of_mem c hx)) hblank
              rw [← hr]
              simp [isTagShape, hc, hrest]
            · simp [hc] at h
      · unfold tagLine? at h
        split at h
        · next heq => exact absurd (List.cons.inj heq).1 ha
        · cases h

/-! ## The line of a tag

A tag is written with a space behind its name. The line is read back with what stands behind that
space. -/

/-- What stands behind a name is read as it is, but for the blanks in front of it. -/
theorem tagLine?_name {name rest : Line} (h : IsTagWord name)
    (hrest : ∀ x ∈ rest.head?, isTagChar x = false) :
    tagLine? ('@' :: (name ++ rest))
      = if rest.isEmpty then some (name, [])
        else if (Text.trimStart rest).length < rest.length
            && !(Text.trimStart rest).contains '\n' then
          some (name, Text.trimStart rest)
        else none := by
  have htake := Text.takeWhile_append_stop h.chars hrest
  have hdrop := Text.dropWhile_append_stop h.chars hrest
  have hletter : (name.head?.map Char.isAlpha).getD false = true := by
    obtain ⟨c, hhead, hc⟩ := (Option.any_eq_true _ _).mp h.letter
    rw [hhead]
    exact hc
  rw [tagLine?_eq, htake, hdrop, hletter]
  rfl

/-- The name with its sign neither begins nor ends with a blank. -/
theorem trimmed_name {name : Line} (h : IsTagWord name) : Text.Trimmed ('@' :: name) := by
  have hat : Text.isBlank '@' = false := by decide
  refine ⟨fun c hc => Option.some.inj hc ▸ hat, fun c hc => ?_⟩
  rcases List.mem_cons.mp (List.mem_of_mem_getLast? hc) with rfl | hmem
  · exact hat
  · exact isBlank_of_isTagChar (h.chars c hmem)

/-- **The line of a tag is read back.** -/
theorem tagLine?_trim {name first : Line} (h : IsTagWord name) (hfirst : Text.Trimmed first)
    (hbreak : '\n' ∉ first) :
    tagLine? (Text.trim ('@' :: (name ++ ' ' :: first))) = some (name, first) := by
  cases first with
  | nil =>
      -- the blank behind the name is trimmed away
      have htrim : Text.trim ('@' :: (name ++ [' '])) = '@' :: (name ++ []) := by
        rw [← List.cons_append, Text.trim_append_blank (by decide), (trimmed_name h).trim_eq,
          List.append_nil]
      have hrest : ∀ x ∈ ([] : Line).head?, isTagChar x = false := fun _ hx => (nomatch hx)
      rw [htrim, tagLine?_name h hrest]
      rfl
  | cons d first =>
      have hline : Text.Trimmed ('@' :: (name ++ ' ' :: d :: first)) := by
        have hjoined := (trimmed_name h).append hfirst (List.cons_ne_nil _ _)
          (List.cons_ne_nil _ _) [' ']
        rwa [List.append_assoc, List.singleton_append] at hjoined
      have hrest : ∀ x ∈ (' ' :: d :: first).head?, isTagChar x = false := by
        intro x hx
        cases hx
        decide
      have hstart : Text.trimStart (' ' :: d :: first) = d :: first :=
        Text.trimStart_eq hfirst.first
      have hcontains : (d :: first).contains '\n' = false :=
        Bool.eq_false_iff.mpr fun hmem => hbreak (List.contains_iff_mem.mp hmem)
      rw [hline.trim_eq, tagLine?_name h hrest, hstart, hcontains]
      simp

end DocCatalog.Doc
