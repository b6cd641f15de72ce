import DocCatalog.Proofs.Doc.RoundTrip
import DocCatalog.Proofs.Doc.Delimiters
import DocCatalog.Proofs.Text.Indented

/-!
# Inline links are flattened in place

A text in which links stand between plain texts reads as the same text with each link replaced by its
label, or by its target where the label is blank. What stands between the links is kept as it is.

* **`WrittenLink`**, **`linkedText`**: links, and texts with links in them.
* **`flattenLinks_of_link`**, **`flattenLinks_cons`**: one step, with no bound on the number of steps.
* **`parseLinkBody?_eq_some`**, **`parseLink?_text`**: one link is read back, up to its own brace.
* **`flattenLinks_plain`**: a plain text is kept, also in front of a link.
* **`flattenLinks_linkedText`**: all links are flattened, and nothing else is.
-/

namespace DocCatalog.Doc

/-- What stands between a target and a label: blanks, or a bar that may stand between blanks. -/
inductive Separator where
  | blanks (gap : List Char)
  | bar (before after : List Char)

namespace Separator

/-- How the target and the label are kept apart. -/
def text : Separator → List Char
  | .blanks gap => gap
  | .bar before after => before ++ '|' :: after

/-- There is a blank at least, or a bar with any blanks around it. -/
def IsProper : Separator → Prop
  | .blanks gap => Text.IsBlanks gap
  | .bar before after => ∀ c ∈ before ++ after, Text.isBlank c = true

instance : DecidablePred IsProper
  | .blanks gap => inferInstanceAs (Decidable (Text.IsBlanks gap))
  | .bar before after =>
    decidable_of_iff ((before ++ after).all Text.isBlank = true) List.all_eq_true

end Separator

/-- A link, part by part: its word, the blanks behind it, the target, and a label if it has one. -/
structure WrittenLink where
  word : List Char
  gap : List Char
  target : List Char
  label? : Option (Separator × List Char)

namespace WrittenLink

variable (l : WrittenLink)

/-- The label with what separates it from the target. -/
def labelText : List Char := (l.label?.map fun label => label.1.text ++ label.2).getD []

/-- The whole link in its braces. -/
def text : List Char := '{' :: '@' :: (l.word ++ (l.gap ++ (l.target ++ (l.labelText ++ ['}']))))

/-- The label, or nothing. -/
def label : List Char := (l.label?.map (·.2)).getD []

/-- What is to be read in place of the link. -/
def reading : List Char := if Text.isAllBlank l.label then l.target else Text.trim l.label

/-- The link has one of the three words and a target, and its parts end where the next one begins. -/
structure IsProper (l : WrittenLink) : Prop where
  word : l.word ∈ ["link".toList, "linkcode".toList, "linkplain".toList]
  gap : Text.IsBlanks l.gap
  target_ne_nil : l.target ≠ []
  target : ∀ c ∈ l.target, Text.isBlank c = false ∧ c ∉ ['|', '{', '}']
  separator : ∀ label ∈ l.label?, label.1.IsProper
  label : ∀ c ∈ l.label, c ∉ ['|', '{', '}']

instance : DecidablePred IsProper := fun l =>
  decidable_of_iff
    (l.word ∈ ["link".toList, "linkcode".toList, "linkplain".toList] ∧ Text.IsBlanks l.gap
      ∧ l.target ≠ [] ∧ (l.target.all fun c => !Text.isBlank c && c ∉ ['|', '{', '}']) = true
      ∧ (∀ label ∈ l.label?, label.1.IsProper) ∧ (l.label.all fun c => c ∉ ['|', '{', '}']) = true)
    ⟨fun ⟨hword, hgap, hne, htarget, hseparator, hlabel⟩ =>
        ⟨hword, hgap, hne, by simpa using htarget, hseparator, by simpa using hlabel⟩,
      fun h => ⟨h.word, h.gap, h.target_ne_nil, by simpa using h.target, h.separator,
        by simpa using h.label⟩⟩

end WrittenLink

/-- A plain text, and links with plain texts behind them. -/
def linkedText (first : List Char) (parts : List (WrittenLink × List Char)) : List Char :=
  first ++ parts.flatMap fun part => part.1.text ++ part.2

/-- The text that is to be read in place of such a text. -/
def flatText (first : List Char) (parts : List (WrittenLink × List Char)) : List Char :=
  first ++ parts.flatMap fun part => part.1.reading ++ part.2

/-! ## One step

The program goes on behind a link, with as many steps as the text has characters. Every link takes
some of them, so there are always enough steps left, and two equations without a bound describe it.
-/

/-- A link has a target. -/
theorem target_ne_nil_of_parseLinkBody? {s target label after : List Char}
    (h : parseLinkBody? s = some (target, label, after)) : target ≠ [] := by
  unfold parseLinkBody? at h
  extract_lets inner target' rest behind label' at h
  split at h
  · cases h
  · split at h
    · next hproper =>
        obtain ⟨rfl, -⟩ := Prod.mk.inj (Option.some.inj h)
        rintro hnil
        simp [hnil] at hproper
    · cases h

/-- Behind a link the text is shorter. -/
theorem length_lt_of_parseLink? {s target label after : List Char}
    (h : parseLink? s = some (target, label, after)) : after.length < s.length := by
  -- the target, the label and what is left stand apart in the text
  have hlength := (parseLink?_sublist h).length_le
  have htarget : target ≠ [] := by
    unfold parseLink? at h
    split at h
    · obtain ⟨word, -, hword⟩ := List.exists_of_findSome?_eq_some h
      obtain ⟨behind, -, hbody⟩ := Option.bind_eq_some_iff.mp hword
      exact target_ne_nil_of_parseLinkBody? hbody
    · cases h
  have hpos := List.length_pos_of_ne_nil htarget
  rw [List.length_append, List.length_append] at hlength
  omega

/-- More steps than characters make no difference. -/
theorem go_eq_flattenLinks {fuel : Nat} {s : List Char} (h : s.length ≤ fuel) :
    flattenLinks.go fuel s = flattenLinks s := by
  -- any two bounds that are long enough do, by induction on one of them
  have hgo : ∀ fuel fuel' s, s.length ≤ fuel → s.length ≤ fuel' →
      flattenLinks.go fuel s = flattenLinks.go fuel' s := by
    intro fuel
    induction fuel with
    | zero =>
        intro fuel' s hs _
        rw [List.eq_nil_of_length_eq_zero (Nat.le_zero.mp hs)]
        cases fuel' <;> rfl
    | succ fuel ih =>
        intro fuel' s hs hs'
        cases s with
        | nil => cases fuel' <;> rfl
        | cons c r =>
            obtain ⟨fuel', rfl⟩ : ∃ n, fuel' = n + 1 := ⟨fuel' - 1, by simp at hs'; omega⟩
            rw [List.length_cons] at hs hs'
            rw [flattenLinks.go, flattenLinks.go]
            split
            · next target label after hlink =>
                have hafter := length_lt_of_parseLink? hlink
                rw [List.length_cons] at hafter
                rw [ih fuel' after (by omega) (by omega)]
            · rw [ih fuel' r (by omega) (by omega)]
  exact hgo fuel s.length s h (Nat.le_refl _)

/-- **A link** is replaced by its label, or by its target if there is no label. -/
theorem flattenLinks_of_link {s target label after : List Char}
    (h : parseLink? s = some (target, label, after)) :
    flattenLinks s = (if label.isEmpty then target else label) ++ flattenLinks after := by
  cases s with
  | nil => cases h
  | cons c r =>
      have hafter := length_lt_of_parseLink? h
      rw [List.length_cons] at hafter
      have hgo : flattenLinks.go r.length after = flattenLinks after := go_eq_flattenLinks (by omega)
      rw [flattenLinks, List.length_cons, flattenLinks.go, h]
      exact congrArg _ hgo

/-- **Any other character** is kept. -/
theorem flattenLinks_cons {c : Char} {r : List Char} (h : parseLink? (c :: r) = none) :
    flattenLinks (c :: r) = c :: flattenLinks r := by
  rw [flattenLinks, List.length_cons, flattenLinks.go, h, go_eq_flattenLinks (Nat.le_refl _)]

/-! ## Plain texts

A link opens with a brace and a sign. In a plain text the two never stand together, and its last
character opens a link only if the text behind begins with the sign. A link does not. -/

/-- A plain text is kept. What follows it makes no link with its end. -/
theorem flattenLinks_plain {s rest : List Char} (h : ¬ ['{', '@'] <:+: s)
    (hrest : rest.head? ≠ some '@') : flattenLinks (s ++ rest) = s ++ flattenLinks rest := by
  induction s with
  | nil => rfl
  | cons c s ih =>
      have hnone : parseLink? (c :: (s ++ rest)) = none := by
        refine parseLink?_of_not_begins fun hbegins => ?_
        obtain ⟨rfl, hnext⟩ := List.cons_prefix_cons.mp hbegins
        -- the opening stands across the end of the plain text, or within it
        cases s with
        | nil =>
            obtain ⟨behind, hbehind⟩ := hnext
            exact hrest (by rw [← List.nil_append rest, ← hbehind]; rfl)
        | cons d s =>
            obtain ⟨rfl, -⟩ := List.cons_prefix_cons.mp hnext
            exact h ⟨[], s, rfl⟩
      rw [List.cons_append, flattenLinks_cons hnone, ih fun hin => h (List.infix_cons hin),
        List.cons_append]

/-! ## One link

A link is read from the left: the word, the target up to a blank or a bar, and the label up to the
brace. -/

/-- What is left without a bar in front. -/
def unbarred (s : List Char) : List Char :=
  match s with
  | '|' :: r => r
  | r => r

/-- Without a bar nothing is dropped. -/
theorem unbarred_of_ne {s : List Char} (h : s.head? ≠ some '|') : unbarred s = s := by
  unfold unbarred
  split
  · exact absurd rfl h
  · rfl

/-- What the program reads behind the word of a link. -/
theorem parseLinkBody?_eq (s : List Char) :
    parseLinkBody? s =
      let inner := Text.trimStart s
      let target := inner.takeWhile isTargetChar
      let rest := unbarred (Text.trimStart (inner.drop target.length))
      let label := rest.takeWhile (· != '}')
      match rest.drop label.length with
      | [] => none
      | _ :: after =>
        if inner.length < s.length && !target.isEmpty then some (target, Text.trim label, after)
        else none := rfl

/-- A target ends where no character of targets follows, and the label at the next closing brace. -/
theorem parseLinkBody?_eq_some {gap target behind label after : List Char} (hgap : Text.IsBlanks gap)
    (hne : target ≠ []) (htarget : ∀ c ∈ target, isTargetChar c = true)
    (hbehind : ∀ c ∈ behind.head?, isTargetChar c = false) (hlabel : '}' ∉ label)
    (hclosed : unbarred (Text.trimStart behind) = label ++ '}' :: after) :
    parseLinkBody? (gap ++ (target ++ behind)) = some (target, Text.trim label, after) := by
  -- the target begins with a character of a name, so no blank of it is taken as part of the gap
  have hinner : Text.trimStart (gap ++ (target ++ behind)) = target ++ behind := by
    rw [Text.trimStart_append hgap.blank]
    obtain ⟨c, rest, rfl⟩ := List.exists_cons_of_ne_nil hne
    have hc := htarget c List.mem_cons_self
    refine Text.trimStart_eq fun d hd => ?_
    cases hd
    rw [isTargetChar, Bool.and_eq_true, Bool.and_eq_true] at hc
    simpa using hc.1.1
  have htake : (target ++ behind).takeWhile isTargetChar = target :=
    Text.takeWhile_append_stop htarget hbehind
  have hstop : (label ++ '}' :: after).takeWhile (· != '}') = label :=
    Text.takeWhile_append_stop (fun c hc => bne_iff_ne.mpr fun heq => hlabel (heq ▸ hc))
      fun c hc => by
        cases hc
        rfl
  have hlength := List.length_pos_of_ne_nil hgap.ne_nil
  rw [parseLinkBody?_eq]
  simp only [hinner, htake, List.drop_left, hclosed, hstop]
  exact if_pos (by simp [hlength, hne])

/-- Behind the word there has to be a blank. -/
theorem parseLinkBody?_of_not_blank {s : List Char} (h : ∀ c ∈ s.head?, Text.isBlank c = false) :
    parseLinkBody? s = none := by
  rw [parseLinkBody?_eq]
  simp only [Text.trimStart_eq h, Nat.lt_irrefl]
  split <;> rfl

theorem afterStart?_append (start s : List Char) : Text.afterStart? start (start ++ s) = some s := by
  have hstart : start.isPrefixOf (start ++ s) = true :=
    List.isPrefixOf_iff_prefix.mpr (List.prefix_append start s)
  rw [Text.afterStart?, if_pos hstart, List.drop_left]

/-- A word that goes on is not taken for a shorter one. -/
theorem bind_afterStart?_longer {word behind : List Char} {c : Char} (hc : Text.isBlank c = false) :
    (Text.afterStart? word (word ++ c :: behind)).bind parseLinkBody? = none := by
  rw [afterStart?_append, Option.bind_some]
  refine parseLinkBody?_of_not_blank fun d hd => ?_
  cases hd
  exact hc

/-- **The word of a link** is the one that a blank follows. -/
theorem parseLink?_word {word behind target label after : List Char}
    (hword : word ∈ ["link".toList, "linkcode".toList, "linkplain".toList])
    (hbody : parseLinkBody? behind = some (target, label, after)) :
    parseLink? ('{' :: '@' :: (word ++ behind)) = some (target, label, after) := by
  have hown : (Text.afterStart? word (word ++ behind)).bind parseLinkBody?
      = some (target, label, after) := by
    rw [afterStart?_append, Option.bind_some, hbody]
  -- the words that are tried before the own one: the shortest is a beginning of the others
  have hcode : (Text.afterStart? "link".toList ("linkcode".toList ++ behind)).bind parseLinkBody?
      = none := bind_afterStart?_longer (show Text.isBlank 'c' = false by decide)
  have hplain : (Text.afterStart? "link".toList ("linkplain".toList ++ behind)).bind parseLinkBody?
      = none := bind_afterStart?_longer (show Text.isBlank 'p' = false by decide)
  have hother : (Text.afterStart? "linkcode".toList ("linkplain".toList ++ behind)).bind parseLinkBody?
      = none := rfl
  simp only [List.mem_cons, List.not_mem_nil, or_false] at hword
  rw [parseLink?, linkWords, List.findSome?_cons]
  rcases hword with rfl | rfl | rfl
  · rw [hown]
  · rw [hcode, List.findSome?_cons, hown]
  · rw [hplain, List.findSome?_cons, hother, List.findSome?_cons, hown]

/-- A target ends at a blank. -/
theorem not_isTargetChar_of_isBlank {c : Char} (h : Text.isBlank c = true) :
    isTargetChar c = false := by
  rw [isTargetChar, h]
  rfl

/-- What is in front of a label ends a target, and is not taken for a part of the label. -/
theorem Separator.IsProper.unbarred {separator : Separator} (h : separator.IsProper) {label : List Char}
    (hlabel : ∀ c ∈ label, c ∉ ['|', '{', '}']) (rest : List Char) :
    (∀ c ∈ (separator.text ++ label ++ '}' :: rest).head?, isTargetChar c = false)
      ∧ ∃ left, '}' ∉ left ∧ Text.trim left = Text.trim label
        ∧ Doc.unbarred (Text.trimStart (separator.text ++ label ++ '}' :: rest))
          = left ++ '}' :: rest := by
  have hbrace : '}' ∉ label := fun hmem => hlabel '}' hmem (by decide)
  cases separator with
  | blanks gap =>
      have hstart : Text.trimStart (gap ++ label ++ '}' :: rest)
          = Text.trimStart label ++ '}' :: rest := by
        rw [List.append_assoc, Text.trimStart_append h.blank, Text.trimStart_append_cons (by decide)]
      -- a bar here would be one of the label
      have hbar : (Text.trimStart label ++ '}' :: rest).head? ≠ some '|' := by
        cases hleft : Text.trimStart label with
        | nil => simp
        | cons c left =>
            have hmem : c ∈ label := (Text.trimStart_suffix label).mem (hleft ▸ List.mem_cons_self)
            rintro ⟨⟩
            exact hlabel '|' hmem (by decide)
      refine ⟨fun c hc => ?_, Text.trimStart label, ?_, Text.trim_trimStart label, ?_⟩
      · obtain ⟨b, bs, rfl⟩ := List.exists_cons_of_ne_nil h.ne_nil
        have hb := not_isTargetChar_of_isBlank (h.blank b List.mem_cons_self)
        cases hc
        exact hb
      · exact fun hmem => hbrace ((Text.trimStart_suffix label).mem hmem)
      · rw [Separator.text, hstart, unbarred_of_ne hbar]
  | bar before after =>
      have hafter : ∀ c ∈ after, Text.isBlank c = true := fun c hc => h c (List.mem_append_right _ hc)
      have hbefore : ∀ c ∈ before, Text.isBlank c = true := fun c hc => h c (List.mem_append_left _ hc)
      refine ⟨fun c hc => ?_, after ++ label, fun hmem => ?_, Text.trim_append hafter label, ?_⟩
      · cases before with
        | nil =>
            cases hc
            decide
        | cons b before =>
            have hb := not_isTargetChar_of_isBlank (hbefore b List.mem_cons_self)
            cases hc
            exact hb
      · rcases List.mem_append.mp hmem with hmem | hmem
        · have hblank := hafter '}' hmem
          revert hblank
          decide
        · exact hbrace hmem
      · rw [Separator.text, List.append_assoc, List.append_assoc, Text.trimStart_append hbefore,
          List.cons_append, Text.trimStart, List.dropWhile_cons_of_neg (by decide), List.append_assoc]
        rfl

namespace WrittenLink.IsProper

variable {l : WrittenLink}

/-- The label of a proper link ends at its own brace, whichever way it is kept apart from the
target. -/
theorem closed (h : l.IsProper) (rest : List Char) :
    (∀ c ∈ (l.labelText ++ '}' :: rest).head?, isTargetChar c = false)
      ∧ ∃ left, '}' ∉ left ∧ Text.trim left = Text.trim l.label
        ∧ unbarred (Text.trimStart (l.labelText ++ '}' :: rest)) = left ++ '}' :: rest := by
  have hlabel := h.label
  rw [WrittenLink.labelText]
  cases hsome : l.label? with
  | none =>
      rw [WrittenLink.label, hsome]
      refine ⟨fun c hc => ?_, [], List.not_mem_nil, rfl, ?_⟩
      · cases hc
        decide
      · rw [Option.map_none, Option.getD_none, List.nil_append, Text.trimStart,
          List.dropWhile_cons_of_neg (by decide)]
        rfl
  | some found =>
      obtain ⟨separator, label⟩ := found
      rw [WrittenLink.label, hsome] at hlabel ⊢
      exact (h.separator (separator, label) hsome).unbarred hlabel rest

/-- **A link is read back**, up to its own closing brace. -/
theorem parseLink?_text (h : l.IsProper) (rest : List Char) :
    parseLink? (l.text ++ rest) = some (l.target, Text.trim l.label, rest) := by
  have htext : l.text ++ rest
      = '{' :: '@' :: (l.word ++ (l.gap ++ (l.target ++ (l.labelText ++ '}' :: rest)))) := by
    simp [WrittenLink.text]
  have htarget : ∀ c ∈ l.target, isTargetChar c = true := by
    intro c hc
    obtain ⟨hblank, hnot⟩ := h.target c hc
    simp only [List.mem_cons, List.not_mem_nil, or_false, not_or] at hnot
    simp [isTargetChar, hblank, hnot.1, hnot.2.2]
  obtain ⟨hstop, left, hleft, htrim, hclosed⟩ := h.closed rest
  rw [htext, ← htrim]
  exact parseLink?_word h.word
    (parseLinkBody?_eq_some h.gap h.target_ne_nil htarget hstop hleft hclosed)

/-- **One link** in front of any text is flattened. -/
theorem flattenLinks_text (h : l.IsProper) (rest : List Char) :
    flattenLinks (l.text ++ rest) = l.reading ++ flattenLinks rest := by
  rw [flattenLinks_of_link (h.parseLink?_text rest), Text.isEmpty_trim, WrittenLink.reading]

end WrittenLink.IsProper

/-- **All links are flattened**, and nothing else is. -/
theorem flattenLinks_linkedText {first : List Char} {parts : List (WrittenLink × List Char)}
    (hfirst : ¬ ['{', '@'] <:+: first)
    (hparts : ∀ part ∈ parts, part.1.IsProper ∧ ¬ ['{', '@'] <:+: part.2) :
    flattenLinks (linkedText first parts) = flatText first parts := by
  induction parts generalizing first with
  | nil =>
      rw [linkedText, flatText]
      simpa using flattenLinks_of_unlinked hfirst
  | cons part parts ih =>
      obtain ⟨hlink, hplain⟩ := hparts part List.mem_cons_self
      have hrest := ih hplain fun other hother => hparts other (List.mem_cons_of_mem part hother)
      have htext : linkedText first (part :: parts)
          = first ++ (part.1.text ++ linkedText part.2 parts) := by
        rw [linkedText, linkedText, List.flatMap_cons, List.append_assoc]
      have hhead : (part.1.text ++ linkedText part.2 parts).head? ≠ some '@' := by
        simp [WrittenLink.text]
      rw [htext, flattenLinks_plain hfirst hhead, hlink.flattenLinks_text, hrest, flatText, flatText,
        List.flatMap_cons, List.append_assoc]

/-- Links of all words, with each kind of separator, without a label and with a blank one. -/
def mixedParts : List (WrittenLink × List Char) :=
  let card := some (Separator.blanks "  ".toList, "the @card ".toList)
  let path := some (Separator.bar " ".toList [], "X".toList)
  let blank := some (Separator.bar [] " ".toList, "\u00a0".toList)
  [(⟨"link".toList, " ".toList, "AxCard".toList, card⟩, " \x7b, ".toList),
    (⟨"linkcode".toList, "\t".toList, "AxBadge#a".toList, none⟩, []),
    (⟨"linkplain".toList, "\n ".toList, "./x.ts".toList, path⟩, "@link y\x7d \x7b".toList),
    (⟨"link".toList, " ".toList, "Y".toList, blank⟩, ".".toList)]

/-- Links with all kinds of separators, next to braces that belong to no link. -/
theorem flattenLinks_linkedText_mixed :
    ¬ ['{', '@'] <:+: "See \x7b".toList
      ∧ (∀ part ∈ mixedParts, part.1.IsProper ∧ ¬ ['{', '@'] <:+: part.2)
      ∧ flattenLinks (linkedText "See \x7b".toList mixedParts)
        = "See \x7bthe @card \x7b, AxBadge#aX@link y\x7d \x7bY.".toList := by
  have hfirst : ¬ ['{', '@'] <:+: "See \x7b".toList := by decide
  have hparts : ∀ part ∈ mixedParts, part.1.IsProper ∧ ¬ ['{', '@'] <:+: part.2 := by decide
  exact ⟨hfirst, hparts, (flattenLinks_linkedText hfirst hparts).trans (by decide)⟩

end DocCatalog.Doc
