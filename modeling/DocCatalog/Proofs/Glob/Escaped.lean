import DocCatalog.Extract.Discover
import Mathlib.Data.List.Induction
/-!
# Patterns behind a path

A pattern is read behind the path of the root, in which every wildcard is escaped. What is read there is
what the pattern says by itself: the path adds one token for each of its characters, and an error stands
as many characters further on as the path is long.

* `tokensFrom_moved`: where a text is read from changes the positions of errors and nothing else.
* `tokensFrom_escape`: an escaped text is read character by character.
* `tokens_behind`: the two together.
* `ofTextBehind_eq_ok_iff`: behind a root a pattern has the parts that it has by itself.
-/

namespace DocCatalog.Glob

/-! ## Moving a text

The fuel of a reading only has to be longer than the text, so that it is moved together with the
position: a text that stands behind another one is read with more of both. -/

/-- The same error, `k` characters further on. -/
def SyntaxError.moved (k : Nat) (e : SyntaxError) : SyntaxError := ⟨e.position + k, e.reason⟩

/-- Reading a set takes characters off the text. -/
theorem length_lt_of_set? {cs rest : List Char} {set : List CharRange}
    (h : set? cs = some (set, rest)) : rest.length < cs.length := by
  cases cs with
  | nil => cases h
  | cons c r =>
      unfold set? at h
      cases hdrop : r.drop (r.takeWhile (· != ']')).length with
      | nil =>
          simp only [hdrop] at h
          cases h
      | cons d after =>
          simp only [hdrop] at h
          cases h
          have hlength := congrArg List.length hdrop
          rw [List.length_drop, List.length_cons] at hlength
          rw [List.length_cons]
          omega

theorem length_lt_of_setToken? {cs rest : List Char} {token : Token}
    (h : setToken? cs = some (token, rest)) : rest.length < cs.length := by
  unfold setToken? at h
  split at h
  · obtain ⟨⟨set, after⟩, hset, heq⟩ := Option.map_eq_some_iff.mp h
    cases heq
    have := length_lt_of_set? hset
    rw [List.length_cons]
    omega
  · obtain ⟨⟨set, after⟩, hset, heq⟩ := Option.map_eq_some_iff.mp h
    cases heq
    exact length_lt_of_set? hset

/-- A character that stands for itself. -/
theorem tokensFrom_plain {c : Char} (hone : c ≠ '?') (hmany : c ≠ '*') (hset : c ≠ '[')
    (fuel position : Nat) (starts : Bool) (r : List Char) :
    tokensFrom (fuel + 1) position starts (c :: r)
      = (tokensFrom fuel (position + 1) (c == '/') r).map (.char c :: ·) := by
  rw [tokensFrom]
  · exact hone
  · exact hmany
  · exact hset

/-- An error is moved whatever else is done to a result. -/
theorem mapError_map {ε ε' α β : Type} (f : α → β) (g : ε → ε') (x : Except ε α) :
    (x.map f).mapError g = (x.mapError g).map f := by
  cases x <;> rfl

/-- Whatever can be left of `r` is read alike `k` characters further on. -/
def RestMoved (k fuel fuel' position : Nat) (r : List Char) : Prop :=
  ∀ (n : Nat) (starts : Bool) (rest : List Char), rest.length ≤ r.length → 0 < n →
    tokensFrom fuel' (position + k + n) starts rest
      = (tokensFrom fuel (position + n) starts rest).mapError (.moved k)

section RestMoved

variable {k fuel fuel' position : Nat} {starts : Bool} {r : List Char}

/-- An error is moved by moving where it stands from the start of the text. -/
theorem error_moved (n : Nat) (reason : Reason) :
    (.error ⟨position + k + n, reason⟩ : Except SyntaxError (List Token))
      = (Except.error ⟨position + n, reason⟩).mapError (.moved k) := by
  show Except.error (SyntaxError.mk _ _) = Except.error (SyntaxError.mk (position + n + k) _)
  rw [Nat.add_right_comm]

theorem RestMoved.one (hrest : RestMoved k fuel fuel' position r) :
    tokensFrom (fuel' + 1) (position + k) starts ('?' :: r)
      = (tokensFrom (fuel + 1) position starts ('?' :: r)).mapError (.moved k) := by
  simp only [tokensFrom]
  rw [hrest 1 false r (Nat.le_refl _) Nat.one_pos, mapError_map]

/-- Stars are counted before the text goes on, and one at fault is named by where it stands. -/
theorem RestMoved.stars (hrest : RestMoved k fuel fuel' position r) (hat : starts = true ∨ 0 < position) :
    tokensFrom (fuel' + 1) (position + k) starts ('*' :: r)
      = (tokensFrom (fuel + 1) position starts ('*' :: r)).mapError (.moved k) := by
  simp only [tokensFrom]
  split
  · rw [hrest 1 false r (Nat.le_refl _) Nat.one_pos, mapError_map]
  · split
    · exact error_moved 2 _
    · split
      · -- the error stands one character back, so the text must not begin here
        have hpos : 0 < position := by simp_all
        show Except.error (SyntaxError.mk (position + k - 1) _) = .error ⟨position - 1 + k, _⟩
        rw [Nat.sub_add_comm hpos]
      · have hdrop : (r.drop (1 + (r.takeWhile (· == '*')).length - 1)).length ≤ r.length := by
          rw [List.length_drop]
          omega
        split
        · rfl
        · next rest heq =>
            rw [heq, List.length_cons] at hdrop
            rw [hrest 3 true rest (by omega) (by omega), mapError_map]
        · exact error_moved 2 _

theorem RestMoved.set (hrest : RestMoved k fuel fuel' position r) :
    tokensFrom (fuel' + 1) (position + k) starts ('[' :: r)
      = (tokensFrom (fuel + 1) position starts ('[' :: r)).mapError (.moved k) := by
  simp only [tokensFrom]
  cases htoken : setToken? r with
  | none => rfl
  | some found =>
      obtain ⟨token, rest⟩ := found
      have hlt := length_lt_of_setToken? htoken
      show (tokensFrom fuel' (position + k + 1 + (r.length - rest.length)) false rest).map _ = _
      rw [Nat.add_assoc (position + k), hrest (1 + (r.length - rest.length)) false rest (by omega)
        (by omega), ← mapError_map, ← Nat.add_assoc]

theorem RestMoved.plain (hrest : RestMoved k fuel fuel' position r) {c : Char} (hone : c ≠ '?')
    (hmany : c ≠ '*') (hset : c ≠ '[') :
    tokensFrom (fuel' + 1) (position + k) starts (c :: r)
      = (tokensFrom (fuel + 1) position starts (c :: r)).mapError (.moved k) := by
  rw [tokensFrom_plain hone hmany hset, tokensFrom_plain hone hmany hset,
    hrest 1 _ r (Nat.le_refl _) Nat.one_pos, mapError_map]

end RestMoved

/-- **A text that is read from another position** has the same tokens, or the same error as far on.
At the start of a text no position stands in front of a `**`, so that one there has to start a name. -/
theorem tokensFrom_moved (k : Nat) {fuel fuel' position : Nat} {starts : Bool} {cs : List Char}
    (hfuel : cs.length < fuel) (hfuel' : cs.length < fuel') (hat : starts = true ∨ 0 < position) :
    tokensFrom fuel' (position + k) starts cs
      = (tokensFrom fuel position starts cs).mapError (.moved k) := by
  induction fuel generalizing fuel' position starts cs with
  | zero => omega
  | succ fuel ih =>
      obtain ⟨fuel', rfl⟩ : ∃ n, fuel' = n + 1 := ⟨fuel' - 1, by omega⟩
      cases cs with
      | nil => rfl
      | cons c r =>
          rw [List.length_cons] at hfuel hfuel'
          have hrest : RestMoved k fuel fuel' position r := by
            intro n b rest hle hn
            rw [Nat.add_right_comm position k n]
            exact ih (by omega) (by omega) (Or.inr (by omega))
          by_cases hone : c = '?'
          · exact hone ▸ hrest.one
          by_cases hmany : c = '*'
          · exact hmany ▸ hrest.stars hat
          by_cases hset : c = '['
          · exact hset ▸ hrest.set
          exact hrest.plain hone hmany hset

/-! ## Escaped texts

An escaped text holds no wildcard outside a set, so that each character of the text gives one token. -/

/-- The token of an escaped character. -/
def plainToken (c : Char) : Token :=
  if c == '?' || c == '*' || c == '[' || c == ']' then .within [⟨c, c⟩] else .char c

/-- **One escaped character** gives one token, wherever it stands. -/
theorem tokensFrom_escapeChar (c : Char) (fuel position : Nat) (starts : Bool) (r : List Char) :
    tokensFrom (fuel + 1) position starts (escapeChar c ++ r)
      = (tokensFrom fuel (position + (escapeChar c).length) (c == '/') r).map (plainToken c :: ·) := by
  by_cases hwild : c = '?' ∨ c = '*' ∨ c = '[' ∨ c = ']'
  · obtain rfl | rfl | rfl | rfl := hwild
    all_goals
      show (tokensFrom fuel (position + 1 + (r.length + 2 - r.length)) false r).map _ = _
      rw [Nat.add_sub_cancel_left, Nat.add_assoc]
      rfl
  · have hone : c ≠ '?' := fun h => hwild (Or.inl h)
    have hmany : c ≠ '*' := fun h => hwild (Or.inr (Or.inl h))
    have hset : c ≠ '[' := fun h => hwild (Or.inr (Or.inr (Or.inl h)))
    have hclose : c ≠ ']' := fun h => hwild (Or.inr (Or.inr (Or.inr h)))
    have hplain : (c == '?' || c == '*' || c == '[' || c == ']') = false := by
      simp [hone, hmany, hset, hclose]
    rw [escapeChar, plainToken, hplain]
    exact tokensFrom_plain hone hmany hset fuel position starts r

/-- Escaping makes a text no shorter. -/
theorem length_le_escape (text : List Char) : text.length ≤ (escape text).length := by
  induction text with
  | nil => exact Nat.le_refl 0
  | cons c text ih =>
      have hone : 1 ≤ (escapeChar c).length := by
        unfold escapeChar
        split <;> simp
      rw [escape, List.flatMap_cons, List.length_append, List.length_cons]
      unfold escape at ih
      omega

/-- **An escaped text in front of a slash** gives its own characters, and what follows starts a name. -/
theorem tokensFrom_escape (text : List Char) (fuel position : Nat) (starts : Bool) (r : List Char) :
    tokensFrom (fuel + text.length + 1) position starts (escape text ++ '/' :: r)
      = (tokensFrom fuel (position + (escape text).length + 1) true r).map
          ((text ++ ['/']).map plainToken ++ ·) := by
  induction text generalizing position starts with
  | nil => rfl
  | cons c text ih =>
      rw [escape, List.flatMap_cons, List.append_assoc, List.length_cons, ← Nat.add_assoc,
        tokensFrom_escapeChar, ← escape, ih, List.length_append]
      rw [← Nat.add_assoc]
      cases tokensFrom fuel (position + (escapeChar c).length + (escape text).length + 1) true r with
      | error e => rfl
      | ok ts => rfl

/-- **Behind an escaped text and a slash** a pattern has its own tokens, or its own error as far on. -/
theorem tokens_behind (text pattern : List Char) :
    tokens (escape text ++ '/' :: pattern)
      = ((tokens pattern).mapError (.moved ((escape text).length + 1))).map
          ((text ++ ['/']).map plainToken ++ ·) := by
  have hle := length_le_escape text
  -- what the text leaves of the fuel is more than the pattern needs
  obtain ⟨fuel, hfuel⟩ : ∃ fuel,
      (escape text ++ '/' :: pattern).length + 1 = fuel + text.length + 1 :=
    ⟨(escape text ++ '/' :: pattern).length - text.length, by
      rw [List.length_append]
      omega⟩
  have hlonger : pattern.length < fuel := by
    rw [List.length_append, List.length_cons] at hfuel
    omega
  unfold tokens
  rw [hfuel, tokensFrom_escape, Nat.zero_add,
    ← tokensFrom_moved _ (Nat.lt_succ_self _) hlonger (Or.inl rfl), Nat.zero_add]

/-- Without the slashes at its end an escaped text is an escaped text. -/
theorem exists_escape_eq_dropSlashes (text : List Char) :
    ∃ text', ((escape text).reverse.dropWhile (· == '/')).reverse = escape text' := by
  induction text using List.reverseRecOn with
  | nil => exact ⟨[], rfl⟩
  | append_singleton text c ih =>
      rw [escape, List.flatMap_append, List.flatMap_singleton, List.reverse_append]
      by_cases hslash : c = '/'
      · subst hslash
        exact ih
      · refine ⟨text ++ [c], ?_⟩
        -- the last character is `c`, or the bracket behind it
        have hkeep : ((escapeChar c).reverse ++ (text.flatMap escapeChar).reverse).dropWhile (· == '/')
            = (escapeChar c).reverse ++ (text.flatMap escapeChar).reverse := by
          unfold escapeChar
          split
          · rfl
          · exact List.dropWhile_cons_of_neg (by simpa using hslash)
        rw [hkeep, ← List.reverse_append, List.reverse_reverse, escape, List.flatMap_append,
          List.flatMap_singleton]

end DocCatalog.Glob

namespace DocCatalog.Extract

open Glob

/-! ## Patterns below a root

What stands before a pattern is such a text with a slash behind it. -/

/-- The base is an escaped text and one slash. -/
theorem exists_patternBase_eq (root : Place) :
    ∃ text, patternBase root = escape text ++ ['/'] := by
  obtain ⟨text, htext⟩ := exists_escape_eq_dropSlashes root.text.toList
  exact ⟨text, congrArg (· ++ ['/']) htext⟩

/-- **The root takes no part in what a pattern says.** Below any root it has the parts that it has by
itself. -/
theorem ofTextBehind_eq_ok_iff {root : Place} {pattern : String} {parts : List Part} :
    ofTextBehind (patternBase root) pattern = .ok parts ↔ ofText pattern = .ok parts := by
  obtain ⟨text, htext⟩ := exists_patternBase_eq root
  unfold ofText ofTextBehind
  rw [htext, List.append_assoc, List.singleton_append, tokens_behind, List.nil_append]
  cases tokens pattern.toList with
  | error e =>
      constructor
      · intro h
        cases h
      · intro h
        cases h
  | ok ts => exact Iff.rfl

/-- An error in the pattern itself stands behind the path of the root. -/
theorem ofTextBehind_eq_error {root : Place} {pattern : String} {e : SyntaxError}
    (h : tokens pattern.toList = .error e) :
    ofTextBehind (patternBase root) pattern = .error (e.moved (patternBase root).length) := by
  obtain ⟨text, htext⟩ := exists_patternBase_eq root
  unfold ofTextBehind
  rw [htext, List.append_assoc, List.singleton_append, tokens_behind, h, List.length_append]
  rfl

end DocCatalog.Extract
