import DocCatalog.Proofs.Emit.Tells

/-!
# Texts stay inside of their literals

A literal is scanned from its opening delimiter on, and a backslash takes the character behind it along.
What is written of a text consists of whole steps of this scan, none of which is at a character that
ends the literal or begins a substitution in it. So the scan first meets the delimiter where the literal
ends, whatever the text is and whatever follows.

* **`met`**, **`closing?`**: what the scan meets, and where it finds a literal closed.
* **`Steps`**: whole steps of the scan, past which the scan goes on (`met_append`).
* **`steps_single`**, **`steps_template`**: what is written of a character.
* **`literals_enclose`**: both literals.
-/

namespace DocCatalog.Emit

/-! ## Scanning a literal

The scan goes from character to character and leaves out what a backslash takes along. What it meets
is listed with its places. -/

/-- The characters that a scan meets from place `i` on, each with its place. A backslash takes the
character behind it along, and the scan meets neither. -/
def met (i : Nat) : List Char → List (Nat × Char)
  | [] => []
  | ['\\'] => []
  | '\\' :: _ :: rest => met (i + 2) rest
  | c :: rest => (i, c) :: met (i + 1) rest

/-- The place at which the literal is closed that a text begins with. -/
def closing? : List Char → Option Nat
  | [] => none
  | delimiter :: rest => ((met 1 rest).find? (·.2 == delimiter)).map (·.1)

/-- An escaped delimiter does not close a literal, and neither does one behind a backslash that is
escaped itself. -/
example : closing? "'a\\'b'c'".toList = some 5 ∧ closing? "'a\\\\'c'".toList = some 4 := by decide

theorem met_cons {c : Char} (h : c ≠ '\\') (i : Nat) (rest : List Char) :
    met i (c :: rest) = (i, c) :: met (i + 1) rest := by
  rw [met]
  · rintro rfl
    exact absurd rfl h
  · rintro d rest' rfl
    exact absurd rfl h

/-- A backslash and the character behind it are one step. -/
theorem met_escape (c : Char) (i : Nat) (rest : List Char) :
    met i ('\\' :: c :: rest) = met (i + 2) rest := rfl

/-- The scan only goes forward. -/
theorem le_of_mem_met {i j : Nat} {c : Char} {text : List Char} (h : (j, c) ∈ met i text) :
    i ≤ j := by
  fun_induction met i text with
  | case1 => cases h
  | case2 => cases h
  | case3 i d rest ih =>
      have := ih h
      omega
  | case4 i d rest _ _ ih =>
      rcases List.mem_cons.mp h with heq | hrest
      · cases heq
        exact Nat.le_refl _
      · have := ih hrest
        omega

/-! ## Whole steps

A text that consists of whole steps leaves the scan where the text ends, so that two of them can be
put together. -/

/-- The text is made of whole steps of the scan: escapes, and characters that are none of `stops`. -/
inductive Steps (stops : List Char) : List Char → Prop where
  | nil : Steps stops []
  | escape (c : Char) {rest : List Char} (hrest : Steps stops rest) : Steps stops ('\\' :: c :: rest)
  | plain {c : Char} {rest : List Char} (hback : c ≠ '\\') (hstop : c ∉ stops)
      (hrest : Steps stops rest) : Steps stops (c :: rest)

variable {stops a b : List Char}

/-- Whole steps follow whole steps. -/
theorem Steps.append (ha : Steps stops a) (hb : Steps stops b) : Steps stops (a ++ b) := by
  induction ha with
  | nil => exact hb
  | escape c _ ih => exact .escape c ih
  | plain hback hstop _ ih => exact .plain hback hstop ih

/-- Each character but the backslash is a step by itself. -/
theorem Steps.of_forall (h : ∀ c ∈ a, c ≠ '\\' ∧ c ∉ stops) : Steps stops a := by
  induction a with
  | nil => exact .nil
  | cons c a ih =>
      obtain ⟨hback, hstop⟩ := h c List.mem_cons_self
      exact .plain hback hstop (ih fun d hd => h d (List.mem_cons_of_mem c hd))

/-- A text that is written character by character consists of whole steps if each of them does. -/
theorem Steps.flatMap {write : Char → List Char} (h : ∀ c, Steps stops (write c)) (s : List Char) :
    Steps stops (s.flatMap write) := by
  induction s with
  | nil => exact .nil
  | cons c s ih =>
      rw [List.flatMap_cons]
      exact (h c).append ih

/-- **The scan goes on behind whole steps**, and none of `stops` is met in them. -/
theorem Steps.met_append (h : Steps stops a) (i : Nat) (rest : List Char) :
    ∃ inside, met i (a ++ rest) = inside ++ met (i + a.length) rest ∧ ∀ m ∈ inside, m.2 ∉ stops := by
  induction h generalizing i with
  | nil => exact ⟨[], rfl, fun _ hm => nomatch hm⟩
  -- the character behind a backslash is passed over, so it is met by no stop
  | @escape c body _ ih =>
      obtain ⟨inside, hmet, hinside⟩ := ih (i + 2)
      refine ⟨inside, ?_, hinside⟩
      rw [List.cons_append, List.cons_append, met_escape, hmet, List.length_cons, List.length_cons]
      congr 2
      omega
  | @plain c body hback hstop _ ih =>
      obtain ⟨inside, hmet, hinside⟩ := ih (i + 1)
      refine ⟨(i, c) :: inside, ?_, ?_⟩
      · rw [List.cons_append, met_cons hback, hmet, List.length_cons, List.cons_append]
        congr 3
        omega
      · intro m hm
        rcases List.mem_cons.mp hm with rfl | hm
        · exact hstop
        · exact hinside m hm

/-! ## Literals

It remains to look at single characters. -/

/-- What is written for a character between quotes does not meet the quote. -/
theorem steps_single (c : Char) : Steps ['\''] (escapeSingleChar c) := by
  unfold escapeSingleChar
  split
  -- no escape: the character is no quote
  case h_9 hback hquote _ _ _ _ _ _ =>
    exact .plain hback (by simpa using hquote) .nil
  -- the digits behind the two long escapes are met one by one
  case h_7 =>
    show Steps ['\''] ('\\' :: 'u' :: ['2', '0', '2', '8'])
    exact .escape 'u' (Steps.of_forall (by simp))
  case h_8 =>
    show Steps ['\''] ('\\' :: 'u' :: ['2', '0', '2', '9'])
    exact .escape 'u' (Steps.of_forall (by simp))
  all_goals exact .escape _ .nil

/-- In a template literal neither a backtick nor a dollar sign is met. -/
theorem steps_template (c : Char) : Steps ['\x60', '$'] (escapeTemplateChar c) := by
  unfold escapeTemplateChar
  split
  · exact .escape c .nil
  · next h =>
      simp only [Bool.or_eq_true, beq_iff_eq, not_or] at h
      exact .plain h.1.1 (by simp [h.1.2, h.2]) .nil

/-- The literal opens with the delimiter, and with the text `following` behind it, the next delimiter
that the scan meets is its last character. -/
structure Encloses (delimiter : Char) (literal following : String) : Prop where
  opens : literal.toList.head? = some delimiter
  closes : closing? (literal ++ following).toList = some (literal.length - 1)

/-- **A literal of whole steps** ends where it is said to. -/
theorem encloses_of_steps {delimiter : Char} {literal : String} {body : List Char}
    (hback : delimiter ≠ '\\') (hdelimiter : delimiter ∈ stops)
    (hliteral : literal.toList = [delimiter] ++ (body ++ [delimiter])) (hbody : Steps stops body)
    (following : String) : Encloses delimiter literal following := by
  refine ⟨by rw [hliteral]; rfl, ?_⟩
  obtain ⟨inside, hmet, hinside⟩ := hbody.met_append 1 (delimiter :: following.toList)
  have hfind : inside.find? (·.2 == delimiter) = none :=
    List.find?_eq_none.mpr fun m hm heq => hinside m hm (eq_of_beq heq ▸ hdelimiter)
  have htext : (literal ++ following).toList
      = delimiter :: (body ++ delimiter :: following.toList) := by
    rw [String.toList_append, hliteral]
    simp
  have hlength : literal.length - 1 = 1 + body.length := by
    rw [← String.length_toList, hliteral]
    simp
    omega
  rw [htext, closing?, hmet, met_cons hback, List.find?_append, hfind, hlength]
  simp

/-- The characters that a single-quoted literal has an escape for because they separate lines or
columns. -/
def breaks : List Char := ['\n', '\r', '\t', '\u2028', '\u2029']

/-- No line break and no separator is written as it is. -/
theorem not_mem_breaks_single {c d : Char} (h : d ∈ escapeSingleChar c) : d ∉ breaks := by
  unfold escapeSingleChar at h
  split at h
  case h_9 _ _ _ hfeed hreturn htab hline hparagraph =>
    rw [List.mem_singleton.mp h]
    simp only [breaks, List.mem_cons, List.not_mem_nil, or_false, not_or]
    exact ⟨hfeed, hreturn, htab, hline, hparagraph⟩
  all_goals revert d; simp [breaks]

/-- **No text gets out of its literal.** Scanned from the opening delimiter with any text behind it, a
literal is closed by its last character. There is no break in a single-quoted literal, and no dollar
sign is met in a template literal, so that no substitution begins in it. -/
theorem literals_enclose (s following : String) :
    Encloses '\'' (quote s) following
      ∧ (∀ c ∈ (quote s).toList, c ∉ breaks)
      ∧ Encloses '\x60' (template s) following
      ∧ ∀ i, (i, '$') ∈ met 1 ((template s ++ following).toList.drop 1) → (template s).length ≤ i := by
  have hsingle : Steps ['\''] (s.toList.flatMap escapeSingleChar) := Steps.flatMap steps_single _
  have htemplate : Steps ['\x60', '$'] (s.toList.flatMap escapeTemplateChar) :=
    Steps.flatMap steps_template _
  refine ⟨encloses_of_steps (by decide) (by decide) (toList_quote s) hsingle following, ?_,
    encloses_of_steps (by decide) (by decide) (toList_template s) htemplate following, ?_⟩
  · -- a literal has its quotes and what is written for its characters
    intro c hc
    have hquote : '\'' ∉ breaks := by decide
    rw [toList_quote, List.mem_append, List.mem_append, List.mem_singleton] at hc
    rcases hc with rfl | hbody | rfl
    · exact hquote
    · obtain ⟨d, -, hd⟩ := List.mem_flatMap.mp hbody
      exact not_mem_breaks_single hd
    · exact hquote
  · -- a dollar sign would be met in the body, at the closing delimiter or behind it
    intro i hi
    obtain ⟨inside, hmet, hinside⟩ := htemplate.met_append 1 ('\x60' :: following.toList)
    have hlength : (template s).length = (s.toList.flatMap escapeTemplateChar).length + 2 := by
      rw [← String.length_toList, toList_template]
      simp
    have hdrop : (template s ++ following).toList.drop 1
        = s.toList.flatMap escapeTemplateChar ++ '\x60' :: following.toList := by
      rw [String.toList_append, toList_template]
      simp
    rw [hdrop, hmet, met_cons (by decide), List.mem_append, List.mem_cons] at hi
    rcases hi with hbody | hclosing | hbehind
    · exact absurd (List.mem_cons_of_mem _ List.mem_cons_self) (hinside _ hbody)
    · cases hclosing
    · have := le_of_mem_met hbehind
      omega

end DocCatalog.Emit
