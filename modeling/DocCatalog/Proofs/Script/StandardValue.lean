import DocCatalog.Script.Lexeme
import DocCatalog.Proofs.Emit.Decoding
import Mathlib.Algebra.Order.BigOperators.Group.List
import Mathlib.Algebra.Order.Group.Nat
import Mathlib.Data.List.Basic

/-!
# Literals and what the language says of them

The language gives a literal a sequence of code units of 16 bits, and has escapes of one, two, four and
any number of digits. Of these the reader knows the ones with a letter for a common control character and
the line that goes on behind a line feed. Every other escape loses its backslash and nothing else, so
that what is read is never shorter than the value, and each escape can be judged on its own.

* **`Element`**, **`IsBody`**: what the body of a literal is made of.
* **`Element.standard`**: the code units that an element stands for in the language.
* **`Element.spells_read`**: what is read of an element, whatever follows it.
* **`flatMap_eq_flatMap_iff`**: where no part is shorter, equal texts have equal parts.
* **`Spelled`**, **`value_standard_iff`**: the literals that are read as the language has them.
-/

namespace DocCatalog.Script.Literal

/-! ## Code units

The language has texts of units of 16 bits. A character above these is two of them. -/

/-- The code units of a code point: itself, or two surrogates where it has more than 16 bits. -/
def encode (n : Nat) : List Nat :=
  if n < 0x10000 then [n] else [0xd800 + (n - 0x10000) / 0x400, 0xdc00 + (n - 0x10000) % 0x400]

/-- The code units of a text. -/
def unitsOf (s : List Char) : List Nat := s.flatMap fun c => encode c.toNat

/-- The value of a hexadecimal digit. -/
def digitValue (c : Char) : Nat :=
  if c.isDigit then c.toNat - '0'.toNat
  else if 'a' ≤ c then c.toNat - 'a'.toNat + 10
  else c.toNat - 'A'.toNat + 10

/-- The value of hexadecimal digits. -/
def hexValue (digits : List Char) : Nat := digits.foldl (fun n c => 16 * n + digitValue c) 0

/-! ## Elements

The body of a literal is made of elements, each of which is a character or an escape. So what is
read can be held against what is meant one by one. -/

/-- What can end a line. -/
inductive LineEnd where
  | lineFeed
  | carriageReturn
  | both
  | lineSeparator
  | paragraphSeparator
  deriving DecidableEq

/-- How it stands in the source. -/
def LineEnd.source : LineEnd → List Char
  | .lineFeed => ['\n']
  | .carriageReturn => ['\r']
  | .both => ['\r', '\n']
  | .lineSeparator => ['\u2028']
  | .paragraphSeparator => ['\u2029']

/-- A letter that stands for a control character behind a backslash. -/
inductive ControlLetter where
  | n
  | t
  | r
  | b
  | f
  | v
  deriving DecidableEq

/-- The letter itself. -/
def ControlLetter.source : ControlLetter → Char
  | .n => 'n'
  | .t => 't'
  | .r => 'r'
  | .b => 'b'
  | .f => 'f'
  | .v => 'v'

/-- The unit that it stands for. -/
def ControlLetter.standard : ControlLetter → Nat
  | .n => 0x0a
  | .t => 0x09
  | .r => 0x0d
  | .b => 0x08
  | .f => 0x0c
  | .v => 0x0b

/-- A part of the body of a literal: a character, or an escape by what follows the backslash. -/
inductive Element where
  | plain (c : Char)
  | control (letter : ControlLetter)
  /-- The digit zero, with no digit behind it. -/
  | null
  /-- An `x` and two digits. -/
  | hex (a b : Char)
  /-- A `u` and four digits. -/
  | unit (a b c d : Char)
  /-- A `u` and digits in braces. -/
  | codePoint (digits : List Char)
  | continuation (lineEnd : LineEnd)
  /-- Any other character. -/
  | self (c : Char)
  deriving DecidableEq

namespace Element

/-- An element as it is spelled. -/
def source : Element → List Char
  | .plain c => [c]
  | .control letter => ['\\', letter.source]
  | .null => ['\\', '0']
  | .hex a b => ['\\', 'x', a, b]
  | .unit a b c d => ['\\', 'u', a, b, c, d]
  | .codePoint digits => '\\' :: 'u' :: '{' :: (digits ++ ['}'])
  | .continuation lineEnd => '\\' :: lineEnd.source
  | .self c => ['\\', c]

/-- The code units that the element stands for. -/
def standard : Element → List Nat
  | .plain c => encode c.toNat
  | .control letter => [letter.standard]
  | .null => [0]
  | .hex a b => [hexValue [a, b]]
  | .unit a b c d => [hexValue [a, b, c, d]]
  | .codePoint digits => encode (hexValue digits)
  | .continuation _ => []
  | .self c => encode c.toNat

/-- The element may stand in a literal with the given delimiter. -/
def IsValid (delimiter : Char) : Element → Prop
  | .plain c => c ≠ '\\' ∧ c ≠ delimiter ∧ c ≠ '\r' ∧ (c = '\n' → delimiter = '\x60')
  | .hex a b => isHexDigit a = true ∧ isHexDigit b = true
  | .unit a b c d =>
    isHexDigit a = true ∧ isHexDigit b = true ∧ isHexDigit c = true ∧ isHexDigit d = true
  | .codePoint digits =>
    digits ≠ [] ∧ digits.all isHexDigit = true ∧ hexValue digits < 0x110000
  | .self c => isOctalDigit c = false
    ∧ c ∉ ['n', 't', 'r', 'b', 'f', 'v', 'x', 'u', '\n', '\r', '\u2028', '\u2029']
  | _ => True

instance (delimiter : Char) : DecidablePred (IsValid delimiter) := fun e => by
  cases e <;> unfold IsValid <;> infer_instance

/-- In a literal with the given delimiter, the element may stand in front of the given text: it would
be another one, or none, with the text's first character. -/
def MayPrecede (delimiter : Char) (rest : List Char) : Element → Prop
  | .null => ∀ c ∈ rest.head?, c.isDigit = false
  | .continuation .carriageReturn => rest.head? ≠ some '\n'
  | .plain '$' => delimiter = '\x60' → rest.head? ≠ some '\x7b'
  | _ => True

/-- The escapes that the reader knows, and the characters that need none. -/
def IsKnown : Element → Prop
  | .plain _ | .null | .self _ => True
  | .control letter => letter = .n ∨ letter = .t ∨ letter = .r
  | .continuation lineEnd => lineEnd = .lineFeed
  | .hex .. | .unit .. | .codePoint _ => False

instance : DecidablePred IsKnown := fun e => by
  cases e <;> unfold IsKnown <;> infer_instance

def read : Element → List Char
  | .plain c => [c]
  | .control letter => (escaped letter.source).toList
  | .null => ['\x00']
  | .hex a b => ['x', a, b]
  | .unit a b c d => ['u', a, b, c, d]
  | .codePoint digits => 'u' :: '\x7b' :: (digits ++ ['\x7d'])
  | .continuation lineEnd => if lineEnd = .lineFeed then [] else lineEnd.source
  | .self c => [c]

end Element

/-- Elements that may stand between delimiters. -/
inductive IsBody (delimiter : Char) : List Element → Prop
  | nil : IsBody delimiter []
  | cons {e : Element} {rest : List Element} (valid : e.IsValid delimiter)
      (precedes : e.MayPrecede delimiter (rest.flatMap Element.source)) (body : IsBody delimiter rest) :
      IsBody delimiter (e :: rest)

/-- The elements of a body are valid. -/
theorem IsBody.valid_of_mem {delimiter : Char} {elements : List Element} (h : IsBody delimiter elements) :
    ∀ e ∈ elements, e.IsValid delimiter := by
  induction h with
  | nil => exact List.forall_mem_nil _
  | cons valid _ _ ih => exact List.forall_mem_cons.mpr ⟨valid, ih⟩

/-! ## Reading

The backslash of an escape is dropped. The character behind it stays, unless it is the letter of a
control character or a line feed, so that the digits of an escape are read as text. -/

/-- Characters that are no backslash stand for themselves. -/
theorem spells_plain {s : List Char} (h : '\\' ∉ s) : Spells s s := by
  have hchars : ∀ c ∈ s, Spells [c] [c] := fun c hc => spells_self fun hback => h (hback ▸ hc)
  have hall := Spells.flatMap_of_forall hchars
  rwa [List.flatMap_singleton'] at hall

/-- Digits have no backslash among them. -/
theorem backslash_notMem_of_isHexDigit {digits : List Char} (h : digits.all isHexDigit = true) :
    '\\' ∉ digits :=
  fun hback => absurd (List.all_eq_true.mp h _ hback) (by decide)

/-- A letter that the reader does not know, and digits: the backslash is lost. -/
theorem spells_digits {letter : Char} {digits : List Char} (hletter : escaped letter = some letter)
    (hdigits : '\\' ∉ digits) : Spells ('\\' :: letter :: digits) (letter :: digits) :=
  (spells_escape hletter).append (spells_plain hdigits)

/-- **What is read of an element**, whatever follows it. -/
theorem Element.spells_read {delimiter : Char} {e : Element} (h : e.IsValid delimiter) :
    Spells e.source e.read := by
  cases e with
  | plain c => exact spells_self h.1
  | control letter => cases letter <;> exact spells_escape rfl
  | null => exact spells_escape rfl
  | hex a b =>
      refine spells_digits rfl (backslash_notMem_of_isHexDigit ?_)
      simpa [Element.IsValid] using h
  | unit a b c d =>
      refine spells_digits rfl (backslash_notMem_of_isHexDigit ?_)
      simpa [Element.IsValid] using h
  | codePoint digits =>
      refine spells_digits rfl ?_
      have hdigits := backslash_notMem_of_isHexDigit h.2.1
      simpa using hdigits
  | continuation lineEnd => cases lineEnd <;> exact fun rest => rfl
  -- the two conditions rule out the characters that are read in another way
  | self c =>
      obtain ⟨hoctal, hother⟩ := h
      refine spells_escape ?_
      unfold escaped
      split
      case h_4 => exact absurd hoctal (by decide)
      case h_6 => rfl
      all_goals exact absurd hother (by decide)

/-- What is read of a body is what is read of its elements, one by one. -/
theorem IsBody.spells {delimiter : Char} {elements : List Element} (h : IsBody delimiter elements) :
    Spells (elements.flatMap Element.source) (elements.flatMap Element.read) :=
  Spells.flatMap_of_forall fun e he => Element.spells_read (h.valid_of_mem e he)

/-! ## What is read and what is meant

What is read of an escape that is not known is longer than what it stands for. So no such escape
makes up for another, and a whole literal is read as it is meant only if every element is. -/

theorem one_le_length_encode (n : Nat) : 1 ≤ (encode n).length := by
  unfold encode
  split <;> simp

theorem length_encode_le (n : Nat) : (encode n).length ≤ 2 := by
  unfold encode
  split <;> simp

/-- A text has as many units as characters, or more. -/
theorem length_le_length_unitsOf (s : List Char) : s.length ≤ (unitsOf s).length := by
  induction s with
  | nil => exact Nat.le_refl _
  | cons c s ih =>
      have hc := one_le_length_encode c.toNat
      simp only [unitsOf, List.flatMap_cons, List.length_append, List.length_cons] at ih ⊢
      omega

/-- The units of a text are those of its parts. -/
theorem unitsOf_flatMap {α : Type} (parts : List α) (f : α → List Char) :
    unitsOf (parts.flatMap f) = parts.flatMap fun a => unitsOf (f a) :=
  List.flatMap_assoc

/-- An element that the reader knows is read as what it stands for. -/
theorem Element.unitsOf_read {e : Element} (h : e.IsKnown) : unitsOf e.read = e.standard := by
  cases e with
  | plain c => exact List.flatMap_singleton _ _
  | control letter => rcases h with rfl | rfl | rfl <;> rfl
  | null => rfl
  | hex | unit | codePoint => exact h.elim
  | continuation lineEnd => cases h; rfl
  | self c => exact List.flatMap_singleton _ _

/-- An escape with digits that the reader does not know is read as more than what it stands for, and so
is the end of a line that it keeps. -/
theorem Element.length_standard_lt {e : Element} (h : ¬ e.IsKnown)
    (hcontrol : ∀ letter, e ≠ .control letter) : e.standard.length < e.read.length := by
  cases e with
  | plain | null | self => exact absurd trivial h
  | control letter => exact absurd rfl (hcontrol letter)
  | hex a b => exact show 1 < 3 by decide
  | unit a b c d => exact show 1 < 5 by decide
  | codePoint digits =>
      have htwo := length_encode_le (hexValue digits)
      simp only [standard, read, List.length_cons, List.length_append, List.length_nil]
      omega
  | continuation lineEnd =>
      cases lineEnd with
      | lineFeed => exact absurd rfl h
      | carriageReturn | both | lineSeparator | paragraphSeparator => decide

/-- An escape that is not known is read as something else, which is no shorter. -/
theorem Element.unitsOf_read_ne {e : Element} (h : ¬ e.IsKnown) :
    e.standard.length ≤ (unitsOf e.read).length ∧ unitsOf e.read ≠ e.standard := by
  by_cases hcontrol : ∃ letter, e = .control letter
  · -- a letter for another: as long as what it stands for
    obtain ⟨letter, rfl⟩ := hcontrol
    revert h
    cases letter <;> decide
  · have hlt := Element.length_standard_lt h fun letter hletter => hcontrol ⟨letter, hletter⟩
    have hread := length_le_length_unitsOf e.read
    exact ⟨by omega, fun heq => absurd (congrArg List.length heq) (by omega)⟩

/-- What is read of an element is never shorter than what it stands for. -/
theorem Element.length_standard_le (e : Element) : e.standard.length ≤ (unitsOf e.read).length := by
  by_cases h : e.IsKnown
  · exact (congrArg List.length (Element.unitsOf_read h)).symm.le
  · exact (Element.unitsOf_read_ne h).1

/-- **An element is read as it is meant** exactly if it is known. -/
theorem Element.unitsOf_read_iff (e : Element) : unitsOf e.read = e.standard ↔ e.IsKnown :=
  ⟨fun heq => by_contra fun h => (Element.unitsOf_read_ne h).2 heq, Element.unitsOf_read⟩

/-- Where no part is shorter on the one side, equal texts have equal parts. -/
theorem flatMap_eq_flatMap_iff {α β : Type} {f g : α → List β} {parts : List α}
    (h : ∀ a ∈ parts, (g a).length ≤ (f a).length) :
    parts.flatMap f = parts.flatMap g ↔ ∀ a ∈ parts, f a = g a := by
  refine ⟨fun heq => ?_, fun hparts => List.flatMap_congr hparts⟩
  induction parts with
  | nil => exact List.forall_mem_nil _
  | cons a parts ih =>
      obtain ⟨ha, hrest⟩ := List.forall_mem_cons.mp h
      rw [List.flatMap_cons, List.flatMap_cons] at heq
      -- were the first part longer, a later one would have to be shorter
      have hlength : (parts.flatMap g).length ≤ (parts.flatMap f).length := by
        rw [List.length_flatMap, List.length_flatMap]
        exact List.sum_le_sum hrest
      have hsum := congrArg List.length heq
      simp only [List.length_append] at hsum
      obtain ⟨hhead, htail⟩ := List.append_inj heq (by omega)
      exact List.forall_mem_cons.mpr ⟨hhead, ih hrest htail⟩

/-- What is read of a body has the code units that the body stands for if the reader knows every
element, and only then. -/
theorem unitsOf_read_eq_iff (elements : List Element) :
    unitsOf (elements.flatMap Element.read) = elements.flatMap Element.standard
      ↔ ∀ e ∈ elements, e.IsKnown := by
  rw [unitsOf_flatMap, flatMap_eq_flatMap_iff fun e _ => e.length_standard_le]
  exact forall₂_congr fun e _ => e.unitsOf_read_iff

/-! ## Literals

Literals in single or double quotes, and templates without holes. -/

/-- The elements between two of the delimiters. -/
structure IsDelimited (delimiter : Char) (literal : String) (elements : List Element) : Prop where
  body : IsBody delimiter elements
  written : literal.toList = delimiter :: (elements.flatMap Element.source ++ [delimiter])

/-- The elements that a string is written with, or a template literal without substitutions. -/
inductive Spelled : Node → List Element → Prop
  | string {role : Role} {gap text : String} {row lastRow : Nat} {quote : Char}
      {elements : List Element} (quotes : quote = '\'' ∨ quote = '\"')
      (delimited : IsDelimited quote text elements) :
      Spelled (.leaf role .string gap text row lastRow) elements
  | template {role : Role} {children : List Node} {elements : List Element}
      (plain : ∀ c ∈ children, c.kind ≠ .substitution)
      (delimited : IsDelimited '\x60' (Node.branch role .template children).text elements) :
      Spelled (.branch role .template children) elements

/-- The delimiters are no part of the value. -/
theorem IsDelimited.value_eq {delimiter : Char} {literal : String} {elements : List Element}
    (h : IsDelimited delimiter literal elements) (hd : isDelimiter delimiter = true) :
    value literal = String.ofList (elements.flatMap Element.read) :=
  Literal.value_eq hd h.written h.body.spells

/-- The value of a literal is the text of its elements. -/
theorem Spelled.ofNode_eq {n : Node} {elements : List Element} (h : Spelled n elements) :
    Value.ofNode n = .str (String.ofList (elements.flatMap Element.read)) := by
  cases h with
  | @string _ _ _ _ _ quote _ quotes delimited =>
      have hd : isDelimiter quote = true := by
        rcases quotes with rfl | rfl <;> decide
      rw [Value.ofNode, delimited.value_eq hd]
  | @template _ children _ plain delimited =>
      have hnone : children.any (·.kind == .substitution) = false :=
        List.any_eq_false.mpr fun c hc => by simpa using plain c hc
      rw [Value.ofNode, hnone, if_neg Bool.false_ne_true, delimited.value_eq (by decide)]

/-- **Strings and template literals** have the value that the language gives them, if there are only
escapes in them that the reader knows. -/
theorem value_standard_iff {n : Node} {elements : List Element} (h : Spelled n elements) :
    ∃ v, Value.ofNode n = .str v ∧ v.toList = elements.flatMap Element.read
      ∧ (unitsOf v.toList = elements.flatMap Element.standard ↔ ∀ e ∈ elements, e.IsKnown) := by
  refine ⟨_, h.ofNode_eq, String.toList_ofList, ?_⟩
  rw [String.toList_ofList]
  exact unitsOf_read_eq_iff elements

/-- A string that goes on in a second line, with an escaped quote in the first. -/
theorem value_standard_iff_two_lines :
    Spelled (.leaf .value .string " " "'it\\'s\\\n\\0'" 0 1)
        [.plain 'i', .plain 't', .self '\'', .plain 's', .continuation .lineFeed, .null]
      ∧ Value.ofNode (.leaf .value .string " " "'it\\'s\\\n\\0'" 0 1) = .str "it's\x00"
      ∧ unitsOf "it's\x00".toList = [0x69, 0x74, 0x27, 0x73, 0] := by
  have hspelled : Spelled (.leaf .value .string " " "'it\\'s\\\n\\0'" 0 1)
      [.plain 'i', .plain 't', .self '\'', .plain 's', .continuation .lineFeed, .null] := by
    refine .string (.inl rfl) ⟨?_, by decide⟩
    refine .cons (by decide) trivial (.cons (by decide) trivial (.cons (by decide) trivial
      (.cons (by decide) trivial (.cons trivial trivial (.cons trivial ?_ .nil)))))
    exact fun c hc => nomatch hc
  obtain ⟨v, hvalue, hread, hiff⟩ := value_standard_iff hspelled
  have hv : v = "it's\x00" := String.toList_inj.mp (hread.trans (by decide))
  subst hv
  exact ⟨hspelled, hvalue, hiff.mpr (by decide)⟩

/-- A character that is written with its digits is read as the digits. -/
theorem digits_taken_for_text :
    Value.ofNode (.leaf .value .string " " "'\\x41'" 0 0) = .str "x41"
      ∧ ¬ ∀ (n : Node) (elements : List Element), Spelled n elements →
        ∃ v, Value.ofNode n = .str v ∧ unitsOf v.toList = elements.flatMap Element.standard := by
  have hspelled : Spelled (.leaf .value .string " " "'\\x41'" 0 0) [.hex '4' '1'] :=
    .string (.inl rfl) ⟨.cons (by decide) trivial .nil, by decide⟩
  refine ⟨hspelled.ofNode_eq, fun h => ?_⟩
  obtain ⟨v, hvalue, hunits⟩ := h _ _ hspelled
  rw [hspelled.ofNode_eq] at hvalue
  cases hvalue
  revert hunits
  decide

end DocCatalog.Script.Literal
