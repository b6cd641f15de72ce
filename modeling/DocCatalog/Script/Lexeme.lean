import DocCatalog.Script.Node
/-!
# Lexemes

Splits source text into lexemes, one at a time and without context: words, private names, numbers,
quoted strings and punctuation. What depends on context (regular expressions, the text of template
literals and of markup) is cut out by the reader, which knows where it stands.

* `Lexeme.next`: the lexeme at the head of a text, with the comments and blanks in front of it.
* `>` is always a lexeme of its own, because it also closes lists of type arguments.
* A NUL ends every open-ended part, so no comment, string or word holds one.
* Comments in the form of markup (`<!--`, `-->`) are left out: a source that has one is refused.
-/

namespace DocCatalog.Script

/-! ## Characters -/

/-- Blanks between lexemes. -/
def isGap (c : Char) : Bool :=
  (9 ≤ c.toNat && c.toNat ≤ 13) || c == ' ' || c == '\u00a0' || c == '\u1680'
    || (0x2000 ≤ c.toNat && c.toNat ≤ 0x200b) || c == '\u2028' || c == '\u2029' || c == '\u202f'
    || c == '\u205f' || c == '\u2060' || c == '\u3000' || c == '\ufeff'

/-- The blanks that may stand between the end of a statement and the line feed that ends it. -/
def isLineGap (c : Char) : Bool := (9 ≤ c.toNat && c.toNat ≤ 13) || c == ' '

/-- The characters that end a line comment. -/
def endsLine (c : Char) : Bool :=
  c == '\n' || c == '\r' || c == '\u2028' || c == '\u2029' || c == '\x00'

/-- ASCII characters other than letters, digits, `_` and `$` that no word holds. -/
def isMark (c : Char) : Bool := ":;\x60\"'@#.,|^&<=>+-*/\\%?!~()[]\x7b\x7d".toList.contains c

/-- A character of a word. Words may hold any character that is no blank, mark or control. -/
def isWordPart (c : Char) : Bool := 0x20 < c.toNat && !isGap c && !isMark c

/-- A character that may begin a word. -/
def isWordStart (c : Char) : Bool := isWordPart c && !c.isDigit

def isHexDigit (c : Char) : Bool :=
  c.isDigit || ('a' ≤ c && c ≤ 'f') || ('A' ≤ c && c ≤ 'F')

def isOctalDigit (c : Char) : Bool := '0' ≤ c && c ≤ '7'

/-- The number of line feeds. -/
def rowsIn (cs : List Char) : Nat := cs.count '\n'

/-! ## Parts of lexemes

Each function gives the length of the part at the head of the text. -/

/-- The escape sequence after a backslash. `none` if no escape begins so. -/
def escapeLength : List Char → Option Nat
  | [] => none
  | 'x' :: a :: b :: _ => if isHexDigit a && isHexDigit b then some 3 else none
  | 'u' :: '{' :: r =>
    let digits := r.takeWhile isHexDigit
    match digits, r.drop digits.length with
    | _ :: _, '}' :: _ => some (digits.length + 3)
    | _, _ => none
  | 'u' :: a :: b :: c :: d :: _ =>
    if isHexDigit a && isHexDigit b && isHexDigit c && isHexDigit d then some 5 else none
  | '\r' :: '\n' :: _ => some 2
  | c :: r =>
    if c == 'x' || c == 'u' || c == '\x00' then none
    else if isOctalDigit c then some (((c :: r).take 3).takeWhile isOctalDigit).length
    else some 1

/-- A string up to and with its closing quote, the opening one being read. -/
def quotedLength (quote : Char) : Nat → List Char → Option Nat
  | 0, _ => none
  | _ + 1, [] => none
  | fuel + 1, c :: r =>
    if c == quote then some 1
    else if c == '\\' then do
      let n ← escapeLength r
      let m ← quotedLength quote fuel (r.drop n)
      return n + m + 1
    else if c == '\n' || c == '\r' || c == '\x00' then none
    else (quotedLength quote fuel r).map (· + 1)

/-- Digits, with single underscores between them. -/
def digitsLength (digit : Char → Bool) : List Char → Nat
  | [] => 0
  | [c] => if digit c then 1 else 0
  | c :: d :: r =>
    if digit c then
      if d == '_' && (r.head?.map digit).getD false then digitsLength digit r + 2
      else digitsLength digit (d :: r) + 1
    else 0

/-- The exponent of a number, or nothing. -/
def exponentLength : List Char → Nat
  | e :: r =>
    if e == 'e' || e == 'E' then
      match r with
      | s :: t =>
        let signed := if s == '+' || s == '-' then 1 else 0
        match digitsLength Char.isDigit (if signed == 1 then t else r) with
        | 0 => 0
        | n => n + signed + 1
      | [] => 0
    else 0
  | [] => 0

/-- A number whose digits follow a base mark such as `0x`. -/
def basedLength (digit : Char → Bool) (r : List Char) : Option Nat :=
  match digitsLength digit r with
  | 0 => none
  | n => some (n + 2 + if (r.drop n).head? == some 'n' then 1 else 0)

/-- A number in decimal digits, with a fraction, an exponent or the mark of a big integer. -/
def decimalLength (cs : List Char) : Option Nat :=
  match digitsLength Char.isDigit cs, cs.drop (digitsLength Char.isDigit cs) with
  | 0, '.' :: r =>
    match digitsLength Char.isDigit r with
    | 0 => none
    | n => some (n + 1 + exponentLength (r.drop n))
  | 0, _ => none
  | n, 'n' :: _ => some (n + 1)
  | n, '.' :: r =>
    let f := digitsLength Char.isDigit r
    some (n + 1 + f + exponentLength (r.drop f))
  | n, r => some (n + exponentLength r)

def numberLength : List Char → Option Nat
  | '0' :: b :: r =>
    if b == 'x' || b == 'X' then basedLength isHexDigit r
    else if b == 'b' || b == 'B' then basedLength (fun c => c == '0' || c == '1') r
    else if b == 'o' || b == 'O' then basedLength isOctalDigit r
    else decimalLength ('0' :: b :: r)
  | cs => decimalLength cs

/-- Punctuation marks, longer ones first. -/
def punctuation : List String :=
  ["...", "===", "!==", "**=", "<<=", "&&=", "||=", "??=",
   "=>", "==", "!=", "++", "--", "+=", "-=", "*=", "/=", "%=", "&=", "|=", "^=", "<=", "**", "<<",
   "&&", "||", "??", "?.",
   "\x7b", "\x7d", "(", ")", "[", "]", ";", ",", "~", "@", ":", "\x60", ".", "<", ">", "=", "!",
   "+", "-", "*", "%", "/", "&", "|", "^", "?"]

def punctuationLength (cs : List Char) : Option Nat :=
  (punctuation.find? fun p => p.toList.isPrefixOf cs && !(p == "?." && startsDigit (cs.drop 2))).map
    (·.length)
where
  startsDigit (r : List Char) : Bool := (r.head?.map Char.isDigit).getD false

/-- A line comment runs to the end of its line, a block comment to the first `*/`. -/
def commentLength : List Char → Option Nat
  | '/' :: '/' :: r => some (2 + (r.takeWhile (!endsLine ·)).length)
  | '/' :: '*' :: r => (closing r).map (· + 2)
  | _ => none
where
  closing : List Char → Option Nat
    | '*' :: '/' :: _ => some 2
    | c :: r => if c == '\x00' then none else (closing r).map (· + 1)
    | [] => none

/-! ## Lexemes -/

inductive Shape where
  | word
  | privateName
  | number
  | string
  | punctuation
  | done
  /-- A character that begins no lexeme. -/
  | stray
  deriving DecidableEq, Repr

structure Lexeme where
  /-- The comments since the lexeme before. -/
  comments : List Node
  /-- The blanks since the lexeme or comment before. -/
  gap : String
  shape : Shape
  text : String
  row : Nat
  lastRow : Nat
  deriving Repr

instance : Inhabited Lexeme := ⟨⟨[], "", .done, "", 0, 0⟩⟩

namespace Lexeme

/-- Whether the lexeme is the given keyword or mark. Literals are no keywords. -/
def isKey (l : Lexeme) (s : String) : Bool :=
  (l.shape == .punctuation || l.shape == .word) && l.text == s

def isAny (l : Lexeme) (ss : List String) : Bool :=
  (l.shape == .punctuation || l.shape == .word) && ss.contains l.text

/-- The lexeme at the head of a text without blanks or comments in front. -/
def shapeOf : List Char → Shape × Nat
  | [] => (.done, 0)
  | c :: r =>
    if isWordStart c then (.word, ((c :: r).takeWhile isWordPart).length)
    else if c == '\'' || c == '\"' then
      match quotedLength c (r.length + 1) r with
      | some n => (.string, n + 1)
      | none => (.stray, 1)
    else if c == '#' then
      match r.takeWhile isWordPart with
      | d :: ds => if isWordStart d then (.privateName, ds.length + 2) else (.stray, 1)
      | [] => (.stray, 1)
    else match numberLength (c :: r) with
      | some n => (.number, n)
      | none =>
        match punctuationLength (c :: r) with
        | some n => (.punctuation, n)
        | none => (.stray, 1)

/-- The first lexeme of a text that begins on `row`, and the text after it. Comments begin with two
slashes or with a slash and a star. The third kind that the grammar has is left out: behind a `<!--` or a
`-->` that does not follow an operand it reads the rest of the line as a comment. Here the mark is read as
punctuation that begins nothing, so that a source with such a comment is refused as a syntax error. -/
def next : (fuel : Nat) → (comments : List Node) → List Char → (row : Nat) →
    Lexeme × List Char
  | 0, comments, cs, row => (⟨comments.reverse, "", .stray, "", row, row⟩, cs)
  | fuel + 1, comments, cs, row =>
    let gap := cs.takeWhile isGap
    let rest := cs.drop gap.length
    let start := row + rowsIn gap
    match commentLength rest with
    | some n =>
      let body := rest.take n
      let stop := start + rowsIn body
      let note := Node.leaf .plain .comment (String.ofList gap) (String.ofList body) start stop
      next fuel (note :: comments) (rest.drop n) stop
    | none =>
      let (shape, n) := shapeOf rest
      let body := rest.take n
      (⟨comments.reverse, String.ofList gap, shape, String.ofList body, start,
        start + rowsIn body⟩, rest.drop n)

end Lexeme

end DocCatalog.Script
