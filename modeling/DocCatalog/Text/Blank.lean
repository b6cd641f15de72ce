/-!
# Blanks

White space as the Unicode property of that name has it, and what is left of a text without the
white space at its ends. All functions work on lists of characters.

* `words`: the runs of characters between white space.
-/

namespace DocCatalog.Text

/-- White space. -/
def isBlank (c : Char) : Bool :=
  (9 ≤ c.toNat && c.toNat ≤ 13) || c == ' ' || c == '\u0085' || c == '\u00a0' || c == '\u1680'
    || (0x2000 ≤ c.toNat && c.toNat ≤ 0x200a) || c == '\u2028' || c == '\u2029' || c == '\u202f'
    || c == '\u205f' || c == '\u3000'

/-- The white space of ASCII is white space. -/
theorem isBlank_of_isWhitespace {c : Char} (h : c.isWhitespace) : isBlank c := by
  simp only [Char.isWhitespace, Bool.or_eq_true, decide_eq_true_eq] at h
  rcases h with ((rfl | rfl) | rfl) | rfl <;> decide

def trimStart (s : List Char) : List Char := s.dropWhile isBlank

def trimEnd (s : List Char) : List Char := (s.reverse.dropWhile isBlank).reverse

def trim (s : List Char) : List Char := trimEnd (trimStart s)

/-- Whether there is nothing but white space. -/
def isAllBlank (s : List Char) : Bool := s.all isBlank

/-- The runs of characters between white space. -/
def words (s : List Char) : List (List Char) := go s []
where
  /-- `word` holds the characters since the last blank, the nearest first. -/
  go : List Char → (word : List Char) → List (List Char)
    | [], [] => []
    | [], w => [w.reverse]
    | c :: r, w =>
      if isBlank c then
        match w with
        | [] => go r []
        | _ => w.reverse :: go r []
      else go r (c :: w)

@[simp] theorem trimStart_nil : trimStart [] = [] := rfl

@[simp] theorem trimEnd_nil : trimEnd [] = [] := rfl

@[simp] theorem trim_nil : trim [] = [] := rfl

end DocCatalog.Text

/-- The text without the white space at its ends. -/
def String.trimBlanks (s : String) : String := String.ofList (DocCatalog.Text.trim s.toList)
