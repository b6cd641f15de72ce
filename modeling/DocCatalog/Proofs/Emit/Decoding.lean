import DocCatalog.Proofs.Emit.Tells
import DocCatalog.Script.Value
import Mathlib.Data.List.Induction

/-!
# Reading literals back

Three writers put a text into a literal, each with escapes of its own, and one reader takes it out.

* **`Spells`**: characters in a literal and the text that they stand for, whatever follows them.
* **`Spells.flatMap`**: a body that is written character by character.
* **`inPasses_eq`**: escaping in passes over the whole text is escaping character by character.
* **`value_literals`**: what is read back of each of the three literals.
-/

namespace DocCatalog

namespace Script.Literal

/-! ## Characters in a literal

The reader takes one character or an escape at a time, so that what it has taken does not depend on
what follows. -/

/-- Wherever `code` begins in a literal, it stands for `text`. -/
def Spells (code text : List Char) : Prop :=
  ∀ rest, unescape (code ++ rest) = text ++ unescape rest

/-- A character that is no backslash is read as it is. -/
theorem unescape_cons {c : Char} (h : c ≠ '\\') (rest : List Char) :
    unescape (c :: rest) = c :: unescape rest := by
  rw [unescape.eq_def]
  split <;> simp_all

theorem spells_self {c : Char} (h : c ≠ '\\') : Spells [c] [c] := fun rest => unescape_cons h rest

/-- A backslash and a letter spell what the letter stands for. -/
theorem spells_escape {c d : Char} (h : escaped c = some d) : Spells ['\\', c] [d] := by
  intro rest
  show (escaped c).toList ++ unescape rest = [d] ++ unescape rest
  rw [h, Option.toList_some]

/-- What is spelled by two parts is spelled by both together. -/
theorem Spells.append {code code' text text' : List Char} (h : Spells code text)
    (h' : Spells code' text') : Spells (code ++ code') (text ++ text') := fun rest => by
  rw [List.append_assoc, h, h', List.append_assoc]

/-- What is written part by part is read part by part. -/
theorem Spells.flatMap_of_forall {α : Type} {write read : α → List Char} {parts : List α}
    (h : ∀ a ∈ parts, Spells (write a) (read a)) :
    Spells (parts.flatMap write) (parts.flatMap read) := by
  induction parts with
  | nil => exact fun rest => rfl
  | cons a parts ih =>
      obtain ⟨hhead, htail⟩ := List.forall_mem_cons.mp h
      exact hhead.append (ih htail)

/-- **A body that is written character by character** is read character by character. -/
theorem Spells.flatMap {write read : Char → List Char} (h : ∀ c, Spells (write c) (read c))
    (s : List Char) : Spells (s.flatMap write) (s.flatMap read) :=
  .flatMap_of_forall fun c _ => h c

/-- The delimiters are taken off, whatever stands between them. -/
theorem stripDelimiters_delimited {d : Char} (hd : isDelimiter d = true) (body : List Char) :
    stripDelimiters (d :: (body ++ [d])) = body := by
  have hlast : (d :: (body ++ [d])).getLast? = some d := by
    rw [← List.cons_append, List.getLast?_concat]
  simp [stripDelimiters, hlast, hd]

/-- The value of a literal is what its body stands for. -/
theorem value_eq {literal : String} {d : Char} {body text : List Char} (hd : isDelimiter d = true)
    (hliteral : literal.toList = d :: (body ++ [d])) (hbody : Spells body text) :
    value literal = String.ofList text := by
  have hread : unescape body = text := by
    have hend := hbody []
    rwa [List.append_nil, show unescape [] = [] from rfl, List.append_nil] at hend
  rw [value, hliteral, stripDelimiters_delimited hd, hread]

/-! ## Marked characters

Template literals and source texts put a backslash before some characters and change nothing else. -/

/-- The character as it is written where those in `special` get a backslash. -/
def mark (special : List Char) (c : Char) : List Char := if c ∈ special then ['\\', c] else [c]

/-- One pass over the text for each of the characters, which puts a backslash before all of it. -/
def inPasses (special s : List Char) : List Char :=
  special.foldl (fun s d => s.flatMap (mark [d])) s

/-- A further pass leaves alone what the passes before have put in, unless it is for backslashes. -/
theorem flatMap_mark {special : List Char} {d : Char} (hd : d ≠ '\\') (hnew : d ∉ special)
    (s : List Char) :
    (s.flatMap (mark special)).flatMap (mark [d]) = s.flatMap (mark (special ++ [d])) := by
  rw [List.flatMap_assoc]
  refine congrArg (s.flatMap ·) (funext fun c => ?_)
  by_cases hc : c ∈ special
  · -- the backslash that is there gets none of its own, and `c` no second one
    have hcd : c ≠ d := fun h => hnew (h ▸ hc)
    simp [mark, hc, hcd, Ne.symm hd]
  · by_cases hcd : c = d
    · subst hcd
      simp [mark, hc]
    · simp [mark, hc, hcd]

/-- **Escaping in passes is escaping character by character**, when backslashes come first. -/
theorem inPasses_eq {special : List Char} (hback : '\\' ∉ special) (hnodup : special.Nodup)
    (s : List Char) : inPasses ('\\' :: special) s = s.flatMap (mark ('\\' :: special)) := by
  -- pass by pass, the last one first
  induction special using List.reverseRecOn with
  | nil => rfl
  | append_singleton special d ih =>
      simp only [List.mem_append, List.mem_singleton, not_or] at hback
      obtain ⟨hspecial, -, hdisjoint⟩ := List.nodup_append.mp hnodup
      have hnew : d ∉ '\\' :: special := by
        simp only [List.mem_cons, not_or]
        exact ⟨Ne.symm hback.2, fun hmem => hdisjoint d hmem d List.mem_cons_self rfl⟩
      have hbefore := ih hback.1 hspecial
      unfold inPasses at hbefore ⊢
      rw [← List.cons_append, List.foldl_append, hbefore, List.foldl_cons, List.foldl_nil,
        flatMap_mark (Ne.symm hback.2) hnew]

/-- Marked characters stand for themselves, when the reader has no other use for their escapes. -/
theorem spells_mark {special : List Char} (hback : '\\' ∈ special)
    (hself : ∀ c ∈ special, escaped c = some c) (c : Char) : Spells (mark special c) [c] := by
  unfold mark
  split
  · next hc => exact spells_escape (hself c hc)
  · next hc =>
      refine spells_self ?_
      rintro rfl
      exact hc hback

/-- The value of a literal that is marked in passes is the text. -/
theorem value_inPasses {literal : String} {d : Char} {special : List Char} {s : String}
    (hd : isDelimiter d = true) (hback : '\\' ∉ special) (hnodup : special.Nodup)
    (hself : ∀ c ∈ special, escaped c = some c)
    (hliteral : literal.toList = d :: (inPasses ('\\' :: special) s.toList ++ [d])) :
    value literal = s := by
  have hmarks : ∀ c, Spells (mark ('\\' :: special) c) [c] := by
    refine spells_mark List.mem_cons_self fun c hc => ?_
    rcases List.mem_cons.mp hc with rfl | hc
    · rfl
    · exact hself c hc
  have hbody := Spells.flatMap hmarks s.toList
  rw [← inPasses_eq hback hnodup] at hbody
  rw [value_eq hd hliteral hbody, List.flatMap_singleton', String.ofList_toList]

end Script.Literal

namespace Emit

open Script Literal

/-! ## The three literals

A name in quotes, a template, and a default that is shown as it stands in the source. The first one
has escapes that the reader does not know. -/

/-- A template literal is escaped in passes over its text. -/
theorem toList_template_inPasses (s : String) :
    (template s).toList = '\x60' :: (inPasses ['\\', '\x60', '$'] s.toList ++ ['\x60']) := by
  rw [toList_template, inPasses_eq (by decide) (by decide)]
  have hchar : escapeTemplateChar = mark ['\\', '\x60', '$'] := by
    funext c
    simp [escapeTemplateChar, mark, or_assoc]
  rw [hchar]
  rfl

theorem toList_sourceText_inPasses (s : String) :
    (Value.str s).sourceText.toList = '\'' :: (inPasses ['\\', '\''] s.toList ++ ['\'']) := by
  have hchar : (fun c => if c == '\\' || c == '\'' then ['\\', c] else [c]) = mark ['\\', '\''] := by
    funext c
    simp [mark]
  rw [Value.sourceText, Value.quoted, hchar, inPasses_eq (by decide) (by decide)]
  simp only [String.toList_append, String.toList_ofList]
  rfl

/-- Whether the character separates lines or paragraphs and is no control character. -/
def isSeparator (c : Char) : Bool := c == '\u2028' || c == '\u2029'

/-- The character, or five letters that name it if it is a separator. -/
def spellSeparator (c : Char) : List Char :=
  if c == '\u2028' then ['u', '2', '0', '2', '8']
  else if c == '\u2029' then ['u', '2', '0', '2', '9']
  else [c]

/-- What is read of a character between quotes: the two separators come out as the digits of their
escapes. -/
theorem spells_single (c : Char) : Spells (escapeSingleChar c) (spellSeparator c) := by
  unfold escapeSingleChar
  split
  -- no escape: the character stands for itself
  case h_9 hback _ _ _ _ _ hline hparagraph =>
    have hself : spellSeparator c = [c] := by
      simp only [spellSeparator, beq_iff_eq, if_neg hline, if_neg hparagraph]
    rw [hself]
    exact spells_self hback
  -- the reader knows no escape with four digits, so that the digits are left
  case h_7 => exact fun rest => rfl
  case h_8 => exact fun rest => rfl
  all_goals exact spells_escape rfl

/-- Only texts without separators are read as they were. -/
theorem flatMap_spellSeparator_eq {s : List Char} :
    s.flatMap spellSeparator = s ↔ ∀ c ∈ s, isSeparator c = false := by
  induction s with
  | nil => simp
  | cons c s ih =>
      rw [List.flatMap_cons, List.forall_mem_cons]
      by_cases hline : c = '\u2028'
      · simp [spellSeparator, isSeparator, hline]
      · by_cases hparagraph : c = '\u2029'
        · simp [spellSeparator, isSeparator, hparagraph]
        · simp [spellSeparator, isSeparator, hline, hparagraph, ih]

/-- **Literals are read back.** A template literal and a source text stand for the text that they
were written for. A single-quoted literal does so too, but that a separator is left as the digits of
its escape; so it stands for its text when there is no separator in it, and only then. -/
theorem value_literals (s : String) :
    value (template s) = s
      ∧ value (Value.str s).sourceText = s
      ∧ value (quote s) = String.ofList (s.toList.flatMap spellSeparator)
      ∧ (value (quote s) = s ↔ '\u2028' ∉ s.toList ∧ '\u2029' ∉ s.toList) := by
  have hquote : value (quote s) = String.ofList (s.toList.flatMap spellSeparator) :=
    value_eq (by decide) (toList_quote s) (Spells.flatMap spells_single s.toList)
  refine ⟨?_, ?_, hquote, ?_⟩
  · have hself : ∀ c ∈ ['\x60', '$'], escaped c = some c :=
      List.forall_mem_cons.mpr ⟨rfl, List.forall_mem_singleton.mpr rfl⟩
    exact value_inPasses (by decide) (by decide) (by decide) hself (toList_template_inPasses s)
  · have hself : ∀ c ∈ ['\''], escaped c = some c := List.forall_mem_singleton.mpr rfl
    exact value_inPasses (by decide) (by decide) (by decide) hself (toList_sourceText_inPasses s)
  · -- the separators are all that is spelled, and a spelled one is read as another text
    have hlist : String.ofList (s.toList.flatMap spellSeparator) = s
        ↔ s.toList.flatMap spellSeparator = s.toList := by
      rw [← String.toList_inj, String.toList_ofList]
    rw [hquote, hlist, flatMap_spellSeparator_eq]
    constructor
    · intro hnone
      exact ⟨fun hmem => absurd (hnone _ hmem) (by decide),
        fun hmem => absurd (hnone _ hmem) (by decide)⟩
    · rintro ⟨hline, hparagraph⟩ c hc
      rw [isSeparator, Bool.or_eq_false_iff, beq_eq_false_iff_ne, beq_eq_false_iff_ne]
      exact ⟨fun h => hline (h ▸ hc), fun h => hparagraph (h ▸ hc)⟩

end Emit

end DocCatalog
