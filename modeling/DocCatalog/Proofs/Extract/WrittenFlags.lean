import DocCatalog.Extract.Flag
import DocCatalog.Proofs.Doc.TagLine

/-!
# Flags are read back

The flags of an option are written as `-c, --long <a|b>`, where the short flag and the placeholder may be
missing. The long flag and the placeholder are cut out where they stand, but the short flag is looked for
between commas and bars, and those stand in the placeholder too.

* **`WrittenFlags`**: flags as they are written.
* **`longFlag?_text`**: the long flag and the placeholder are read back.
* **`LooksShort`**, **`shortFlag?_text`**: a short flag is read back, and where there is none, a part of
  the placeholder can be taken for one.
* **`WrittenFlags.ReadAs`**, **`optionOf?_text`**: the flags and the option that they are read as.
-/

namespace DocCatalog.Extract.Flag

open Script (Call)

/-! ## Writing

An option is written with a long name and, if it takes a value, with a placeholder that lists the
choices. It may have a letter in front. -/

/-- A letter or digit, and then letters, digits, dashes and underscores. -/
structure IsLongName (name : List Char) : Prop where
  first : name.head?.any Char.isAlphanum = true
  chars : ∀ c ∈ name, Doc.isNameChar c = true

/-- A text between the bars of a placeholder. -/
structure IsChoice (choice : List Char) : Prop where
  nonempty : choice ≠ []
  trimmed : Text.Trimmed choice
  noBar : '|' ∉ choice
  noAngle : '>' ∉ choice
  noSquare : ']' ∉ choice

instance : DecidablePred IsLongName := fun name =>
  decidable_of_iff (name.head?.any Char.isAlphanum = true ∧ name.all Doc.isNameChar = true)
    ⟨fun ⟨hfirst, hchars⟩ => ⟨hfirst, List.all_eq_true.mp hchars⟩,
      fun h => ⟨h.first, List.all_eq_true.mpr h.chars⟩⟩

instance : DecidablePred IsChoice := fun choice =>
  decidable_of_iff
    (choice ≠ [] ∧ Text.Trimmed choice ∧ '|' ∉ choice ∧ '>' ∉ choice ∧ ']' ∉ choice)
    ⟨fun ⟨hne, htrimmed, hbar, hangle, hsquare⟩ => ⟨hne, htrimmed, hbar, hangle, hsquare⟩,
      fun h => ⟨h.nonempty, h.trimmed, h.noBar, h.noAngle, h.noSquare⟩⟩

/-- The flags of an option as they are written. Without choices there is no placeholder. -/
structure WrittenFlags where
  name : List Char
  short? : Option Char
  choices : List (List Char)
  isLongName : IsLongName name := by decide
  isAlphanum : short?.all Char.isAlphanum = true := by decide
  isChoice : ∀ p ∈ choices, IsChoice p := by decide

namespace WrittenFlags

variable (w : WrittenFlags)

/-- The short flag with its comma, if there is one. -/
def shortText : List Char :=
  match w.short? with
  | some c => ['-', c, ',', ' ']
  | none => []

/-- The choices between bars. -/
def choiceText : List Char := Text.join ['|'] w.choices

/-- The placeholder in its brackets, if there is one. -/
def placeholderText : List Char := if w.choices.isEmpty then [] else '<' :: (w.choiceText ++ ['>'])

/-- What stands between the brackets of the placeholder. -/
def placeholder? : Option (List Char) := if w.choices.isEmpty then none else some w.choiceText

/-- The long flag, with the placeholder if there is one. -/
def longText : List Char :=
  '-' :: '-' :: (w.name ++ if w.choices.isEmpty then [] else ' ' :: w.placeholderText)

/-- The whole of the flags. -/
def text : List Char := w.shortText ++ w.longText

end WrittenFlags

/-! ## The long flag

The long flag is looked for from the left, at every place. It begins with two dashes, which the
short flag does not have, and the placeholder is what stands in the brackets behind it. -/

/-- The characters of a name can stand in a flag. -/
theorem isFlagChar_of_isNameChar {c : Char} (h : Doc.isNameChar c = true) : isFlagChar c = true :=
  Doc.isTagChar_of_isNameChar h

/-- At its own place the long flag is found, up to the first character that cannot stand in it. -/
theorem longFlag?_name {name : List Char} (h : IsLongName name) (rest : List Char)
    (hrest : ∀ c ∈ rest.head?, isFlagChar c = false) :
    longFlag? ('-' :: '-' :: (name ++ rest)) = some (name, placeholder? rest) := by
  have hchars : ∀ c ∈ name, isFlagChar c = true := fun c hc => isFlagChar_of_isNameChar (h.chars c hc)
  have htake := Text.takeWhile_append_stop hchars hrest
  obtain ⟨d, hhead, hd⟩ := (Option.any_eq_true _ _).mp h.first
  cases name with
  | nil => cases hhead
  | cons c name =>
      obtain rfl := Option.some.inj hhead
      rw [List.cons_append] at htake ⊢
      simp only [longFlag?, hd, if_true, htake]
      rw [← List.cons_append, List.drop_left]

theorem ne_dash_of_isAlphanum {c : Char} (h : c.isAlphanum = true) : c ≠ '-' := by
  rintro rfl
  revert h
  decide

/-- No long flag begins where there are no two dashes. -/
theorem longFlag?_cons {c d : Char} {s : List Char} (h : c ≠ '-' ∨ d ≠ '-') :
    longFlag? (c :: d :: s) = longFlag? (d :: s) := by
  rw [longFlag?]
  intro x r hc hs
  rcases h with h | h
  · exact h hc
  · exact h (List.cons.inj hs).1

/-- A short flag in front is passed over. -/
theorem longFlag?_short {c : Char} (hc : c.isAlphanum = true) (rest : List Char) :
    longFlag? ('-' :: c :: ',' :: ' ' :: '-' :: rest) = longFlag? ('-' :: rest) := by
  have hdash := ne_dash_of_isAlphanum hc
  have hcomma : ',' ≠ '-' := by decide
  have hblank : ' ' ≠ '-' := by decide
  rw [longFlag?_cons (.inr hdash), longFlag?_cons (.inl hdash), longFlag?_cons (.inl hcomma),
    longFlag?_cons (.inl hblank)]

/-- A placeholder is read behind a blank, with what stands between its brackets. -/
theorem placeholder?_text {text : List Char} (hne : text ≠ []) (h : ∀ c ∈ text, c ≠ '>' ∧ c ≠ ']') :
    placeholder? (' ' :: '<' :: (text ++ ['>'])) = some text := by
  let isInside (c : Char) : Bool := c != '>' && c != ']'
  have hinside : ∀ c ∈ text, isInside c = true := by
    intro c hc
    simpa [isInside] using h c hc
  have htake : (text ++ ['>']).takeWhile isInside = text :=
    Text.takeWhile_append_stop hinside fun c hc => by
      cases hc
      decide
  have hstart : Text.trimStart (' ' :: '<' :: (text ++ ['>'])) = '<' :: (text ++ ['>']) := by
    rfl
  have hclosed : ((text ++ ['>']).drop text.length).isEmpty = false := by
    rw [List.drop_left]
    rfl
  have hopen : (Text.isBlank ' ' && ('<' == '<' || '<' == '[')) = true := by decide
  have hempty : text.isEmpty = false := Bool.eq_false_iff.mpr fun h => hne (List.isEmpty_iff.mp h)
  unfold placeholder?
  rw [hstart]
  -- `unfold` leaves the conditions as they are computed, so they are stated to be rewritten
  show (if (Text.isBlank ' ' && ('<' == '<' || '<' == '[')) = true then
      if (((text ++ ['>']).takeWhile isInside).isEmpty
          || ((text ++ ['>']).drop ((text ++ ['>']).takeWhile isInside).length).isEmpty) = true then
        none else some ((text ++ ['>']).takeWhile isInside)
    else none) = some text
  rw [htake, hempty, hclosed, if_pos hopen, Bool.or_false, if_neg Bool.false_ne_true]

namespace WrittenFlags

variable (w : WrittenFlags)

/-- The letter of a proper short flag is a letter or a digit. -/
theorem isAlphanum_of_short {c : Char} (h : w.short? = some c) : c.isAlphanum = true := by
  have hall := w.isAlphanum
  rwa [h] at hall

/-- No bracket stands in the choices, so that the placeholder ends at its own. -/
theorem choiceText_chars : ∀ c ∈ w.choiceText, c ≠ '>' ∧ c ≠ ']' := by
  intro c hc
  rcases Text.mem_join hc with hbar | ⟨p, hp, hmem⟩
  · rw [List.mem_singleton.mp hbar]
    decide
  · have hchoice := w.isChoice p hp
    exact ⟨fun h => hchoice.noAngle (h ▸ hmem), fun h => hchoice.noSquare (h ▸ hmem)⟩

/-- The choices together neither begin nor end with a blank. -/
theorem trimmed_choiceText : Text.Trimmed w.choiceText ∧ (w.choices ≠ [] → w.choiceText ≠ []) :=
  Text.trimmed_join fun p hp => ⟨(w.isChoice p hp).trimmed, (w.isChoice p hp).nonempty⟩

/-- **The long flag is read back**, with its placeholder. -/
theorem longFlag?_text : longFlag? w.text = some (w.name, w.placeholder?) := by
  -- first without a short flag, with a placeholder or not
  have hlong : longFlag? w.longText = some (w.name, w.placeholder?) := by
    unfold placeholder?
    cases hchoices : w.choices.isEmpty with
    | true =>
        have hread := longFlag?_name w.isLongName [] fun c hc => nomatch hc
        simp only [longText, hchoices, if_true]
        exact hread
    | false =>
        have hne : w.choices ≠ [] := fun h => by simp [h] at hchoices
        have hread := longFlag?_name w.isLongName (' ' :: w.placeholderText) fun c hc => by
          cases hc
          decide
        have hplaceholder := placeholder?_text (w.trimmed_choiceText.2 hne) w.choiceText_chars
        simp only [longText, placeholderText, hchoices, Bool.false_eq_true, if_false] at hread ⊢
        rw [hread, hplaceholder]
  -- a short flag in front is passed over, as it has one dash
  cases hshort : w.short? with
  | none =>
      rw [text, shortText, hshort]
      exact hlong
  | some c =>
      rw [text, shortText, hshort]
      exact (longFlag?_short (w.isAlphanum_of_short hshort) _).trans hlong

end WrittenFlags

/-! ## The short flag

For the short flag the whole text is cut at commas and bars, and the first piece that begins with a
dash and a letter counts. The long flag is no such piece, but a choice can be one, as the bars
between choices cut the placeholder. -/

/-- The part is a dash and the letter or digit, and then nothing or a blank. -/
def LooksShort (letter : Char) (part : List Char) : Prop :=
  letter.isAlphanum = true ∧ ∃ rest, Text.trim part = '-' :: letter :: rest
    ∧ ∀ d ∈ rest.head?, Text.isBlank d = true

/-- A piece is taken for a short flag when it looks like one. -/
theorem shortLetter?_eq_some {letter : Char} {part : List Char} :
    shortLetter? (Text.trim part) = some letter ↔ LooksShort letter part := by
  constructor
  · intro h
    unfold shortLetter? at h
    -- a letter with nothing behind it, or with a blank
    split at h
    · next c heq =>
        split at h
        · next hc =>
            cases h
            exact ⟨hc, [], heq, fun d hd => nomatch hd⟩
        · cases h
    · next c d rest heq =>
        split at h
        · next hc =>
            cases h
            obtain ⟨hletter, hblank⟩ := Bool.and_eq_true_iff.mp hc
            exact ⟨hletter, d :: rest, heq, fun x hx => Option.some.inj hx ▸ hblank⟩
        · cases h
    · cases h
  · rintro ⟨hletter, rest, heq, hrest⟩
    rw [heq]
    cases rest with
    | nil => simp [shortLetter?, hletter]
    | cons d rest => simp [shortLetter?, hletter, hrest d rfl]

/-- A part that begins otherwise is no short flag. -/
theorem not_looksShort_of_prefix {part s : List Char} {a b letter : Char}
    (hpart : part <+: a :: b :: s) (ha : Text.isBlank a = false)
    (hnot : a ≠ '-' ∨ b.isAlphanum = false) : ¬ LooksShort letter part := by
  rintro ⟨hletter, rest, htrim, -⟩
  have hfirst : ∀ c ∈ part.head?, Text.isBlank c = false := by
    intro c hc
    obtain ⟨behind, hs⟩ := hpart
    cases part with
    | nil => cases hc
    | cons d part =>
        obtain rfl := Option.some.inj hc
        rw [← (List.cons.inj hs).1] at ha
        exact ha
  have hprefix := (Text.trim_prefix hfirst).trans hpart
  rw [htrim, List.cons_prefix_cons, List.cons_prefix_cons] at hprefix
  obtain ⟨rfl, rfl, -⟩ := hprefix
  simp [hletter] at hnot

/-- Short flags are looked for between commas and bars. -/
def separates (c : Char) : Bool := c == ',' || c == '|'

/-- The pieces are tried from the left. -/
theorem shortFlag?_eq (flags : List Char) : shortFlag? flags
    = (Text.splitWhere separates flags).findSome? fun part => shortLetter? (Text.trim part) := rfl

/-- No name is cut. -/
theorem separates_of_isNameChar {c : Char} (h : Doc.isNameChar c = true) : separates c = false := by
  cases hsep : separates c with
  | false => rfl
  | true =>
      rw [separates, Bool.or_eq_true, beq_iff_eq, beq_iff_eq] at hsep
      rcases hsep with rfl | rfl <;> revert h <;> decide

theorem isNameChar_of_isAlphanum {c : Char} (h : c.isAlphanum = true) : Doc.isNameChar c = true := by
  simp [Doc.isNameChar, h]

theorem looksShort_letter {c : Char} (h : c.isAlphanum = true) : LooksShort c ['-', c] := by
  have hblank := Doc.isBlank_of_isTagChar (isFlagChar_of_isNameChar (isNameChar_of_isAlphanum h))
  have htrimmed : Text.Trimmed ['-', c] := by
    refine ⟨fun d hd => ?_, fun d hd => ?_⟩
    · cases hd
      decide
    · cases hd
      exact hblank
  exact ⟨h, [], htrimmed.trim_eq, fun d hd => nomatch hd⟩

namespace WrittenFlags

variable (w : WrittenFlags)

/-- The parts of the placeholder between commas and bars, with its brackets. -/
def parts : List (List Char) := Text.splitWhere separates w.placeholderText

/-- The first part that looks like a short flag, if there is one. -/
def takenForShort? : Option Char := w.parts.findSome? fun part => shortLetter? (Text.trim part)

/-- What stands in front of the placeholder. -/
def frontText : List Char := '-' :: '-' :: (w.name ++ if w.choices.isEmpty then [] else [' '])

/-- The long flag in front of its placeholder. -/
theorem longText_eq : w.longText = w.frontText ++ w.placeholderText := by
  cases h : w.choices.isEmpty <;> simp [longText, frontText, placeholderText, h]

theorem frontText_chars : ∀ c ∈ w.frontText, separates c = false := by
  intro c hc
  simp only [frontText, List.mem_cons, List.mem_append] at hc
  rcases hc with rfl | rfl | hname | hblank
  · decide
  · decide
  · exact separates_of_isNameChar (w.isLongName.chars c hname)
  · split at hblank
    · cases hblank
    · rw [List.mem_singleton.mp hblank]
      decide

/-- **Without a short flag** the pieces of the placeholder are tried. -/
theorem shortFlag?_longText : shortFlag? w.longText = w.takenForShort? := by
  obtain ⟨piece, pieces, hparts, hwhole⟩ :=
    Text.splitWhere_append_of_forall w.frontText_chars w.placeholderText
  -- the part that the long flag stands in is none, nor is what is left of it in the placeholder
  have hfront : shortLetter? (Text.trim (w.frontText ++ piece)) = none := by
    refine Option.eq_none_iff_forall_ne_some.mpr fun letter h => ?_
    exact not_looksShort_of_prefix (List.prefix_refl _) (by decide) (.inr (by decide))
      (shortLetter?_eq_some.mp h)
  have hpiece : shortLetter? (Text.trim piece) = none := by
    have hprefix := Text.splitWhere_head_prefix hparts
    unfold placeholderText at hprefix
    split at hprefix
    · rw [List.prefix_nil.mp hprefix]
      rfl
    · obtain ⟨b, s, hs⟩ := List.exists_cons_of_ne_nil (l := w.choiceText ++ ['>']) (by simp)
      rw [hs] at hprefix
      refine Option.eq_none_iff_forall_ne_some.mpr fun letter h => ?_
      exact not_looksShort_of_prefix hprefix (by decide) (.inl (by decide))
        (shortLetter?_eq_some.mp h)
  rw [shortFlag?_eq, longText_eq, hwhole, takenForShort?, parts, hparts, List.findSome?_cons,
    List.findSome?_cons, hfront, hpiece]

/-- **The short flag is read back**. Where there is none, a part of the placeholder is taken for it. -/
theorem shortFlag?_text :
    shortFlag? w.text = w.short?.or w.takenForShort? := by
  cases hshort : w.short? with
  | none =>
      rw [text, shortText, hshort]
      exact w.shortFlag?_longText
  | some c =>
      have hc := w.isAlphanum_of_short hshort
      -- the short flag is a piece of its own, up to its comma
      have hone : Text.splitWhere separates ['-', c] = [['-', c]] := by
        refine Text.splitWhere_of_forall fun d hd => ?_
        rcases List.mem_cons.mp hd with rfl | hd
        · decide
        · rw [List.mem_singleton.mp hd]
          exact separates_of_isNameChar (isNameChar_of_isAlphanum hc)
      have hpieces : Text.splitWhere separates ('-' :: c :: ',' :: ' ' :: w.longText)
          = ['-', c] :: Text.splitWhere separates (' ' :: w.longText) := by
        have happend := Text.splitWhere_append separates ['-', c] (' ' :: w.longText) (c := ',') rfl
        rw [hone] at happend
        exact happend
      rw [text, shortText, hshort, Option.some_or]
      show shortFlag? ('-' :: c :: ',' :: ' ' :: w.longText) = some c
      rw [shortFlag?_eq, hpieces, List.findSome?_cons,
        shortLetter?_eq_some.mpr (looksShort_letter hc)]

/-! ## Options

The option is put together from these three, and the placeholder also tells its type and its
choices. -/

/-- The option that the flags are read as. Its alias is the short flag, and without one there is an alias
exactly when some part of the placeholder looks like a short flag. -/
structure ReadAs (o : CommandOption) : Prop where
  name : o.name = String.ofList w.name
  short : ∀ c, w.short? = some c → o.alias? = some (String.ofList [c])
  unshort : w.short? = none →
    (o.alias? = none ↔ ∀ part ∈ w.parts, ∀ letter, ¬ LooksShort letter part)
  choices : o.choices = if 2 ≤ w.choices.length then w.choices.map String.ofList else []
  type : o.type = .boolean ↔ w.choices = []

/-- No choice is taken for a short flag exactly when no piece of the placeholder looks like one. -/
theorem takenForShort?_eq_none :
    w.takenForShort? = none ↔ ∀ part ∈ w.parts, ∀ letter, ¬ LooksShort letter part := by
  rw [takenForShort?, List.findSome?_eq_none_iff]
  simp only [Option.eq_none_iff_forall_ne_some, ne_eq, shortLetter?_eq_some]

/-- The choices are cut at the bars between them, and a single one is none. -/
theorem choicesOf_choiceText (h : w.choices ≠ []) :
    choicesOf (some w.choiceText)
      = if 2 ≤ w.choices.length then w.choices.map String.ofList else [] := by
  have hbar : ∀ p ∈ w.choices, ∀ c ∈ p, (c == '|') = false := fun p hp c hc =>
    beq_false_of_ne fun h => (w.isChoice p hp).noBar (h ▸ hc)
  have hpieces : Text.splitWhere (· == '|') w.choiceText = w.choices :=
    Text.splitWhere_join rfl h hbar
  have htrim : w.choices.map (fun p => String.ofList (Text.trim p)) = w.choices.map String.ofList :=
    List.map_congr_left fun p hp => by rw [(w.isChoice p hp).trimmed.trim_eq]
  -- there is a bar in the placeholder if there are two choices
  have hcontains : w.choiceText.contains '|' = decide (2 ≤ w.choices.length) := by
    unfold choiceText
    cases hchoices : w.choices with
    | nil => exact absurd hchoices h
    | cons a rest =>
        cases rest with
        | nil =>
            have ha : '|' ∉ a := fun hmem => by
              have := hbar a (hchoices ▸ List.mem_cons_self) '|' hmem
              cases this
            simpa [Text.join] using ha
        | cons b rest => simp [Text.join_cons_cons]
  rw [choicesOf, hcontains, hpieces, htrim]
  simp

/-- What the program makes of the flags, part by part. -/
theorem optionOf?_eq (call : Call) : optionOf? (String.ofList w.text) call = some
    { name := String.ofList w.name
      alias? := (w.short?.or w.takenForShort?).map fun c => String.ofList [c]
      type := typeOf w.placeholder? (defaultOf? call)
      default? := defaultOf? call
      description := stringArgument call 1
      choices := choicesOf w.placeholder? } := by
  have htrim : w.placeholder?.map Text.trim = w.placeholder? := by
    unfold placeholder?
    split
    · rfl
    · rw [Option.map_some, w.trimmed_choiceText.1.trim_eq]
  rw [optionOf?, String.toList_ofList, longFlag?_text, shortFlag?_text]
  show some _ = some _
  rw [htrim]

/-- Only an option without a placeholder takes no value. -/
theorem typeOf_eq_boolean (default : Option OptionDefault) :
    typeOf w.placeholder? default = .boolean ↔ w.choices = [] := by
  unfold placeholder?
  cases hchoices : w.choices with
  | nil => simp [typeOf]
  | cons a rest =>
      cases default with
      | none => simp [typeOf]
      | some d => cases d <;> simp [typeOf]

/-- **Flags are read back**: the name, the choices and whether there is a placeholder as they are
written, and the alias too if a short flag is written. -/
theorem optionOf?_text (call : Call) :
    ∃ o, optionOf? (String.ofList w.text) call = some o ∧ w.ReadAs o := by
  refine ⟨_, w.optionOf?_eq call, rfl, fun c hc => ?_, fun hnone => ?_, ?_,
    w.typeOf_eq_boolean (defaultOf? call)⟩
  · simp [hc]
  · simp [hnone, takenForShort?_eq_none]
  · show choicesOf w.placeholder? = _
    by_cases hchoices : w.choices = []
    · simp [placeholder?, hchoices, choicesOf]
    · have hempty : w.choices.isEmpty = false := by simpa using hchoices
      rw [placeholder?, hempty, if_neg Bool.false_ne_true, choicesOf_choiceText w hchoices]

end WrittenFlags

/-- Flags without a short one, and with a signed number among the choices. -/
def signedFlags : WrittenFlags where
  name := "level".toList
  short? := none
  choices := ["0".toList, "-1".toList, "1".toList]

/-- A choice between bars is taken for the short flag that is missing. -/
theorem choice_taken_for_alias :
    (optionOf? "--level <0|-1|1>" ⟨"option", none, [], 1⟩).map (·.alias?) = some (some "1")
      ∧ ¬ ∀ (w : WrittenFlags) (call : Call) (o : CommandOption),
        optionOf? (String.ofList w.text) call = some o → w.short? = none → o.alias? = none := by
  refine ⟨by decide, fun h => ?_⟩
  have hnone := h signedFlags ⟨"option", none, [], 1⟩ _ (signedFlags.optionOf?_eq _) rfl
  revert hnone
  decide

end DocCatalog.Extract.Flag
