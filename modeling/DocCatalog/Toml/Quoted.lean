/-!
# Quoted strings

Each reader starts behind the opening quotes and gives the string with what follows the closing ones.

* `literal`, `basic`: strings on one line, without and with escapes.
* `longLiteral`, `longBasic`: strings in triple quotes, which may hold line breaks.
-/

namespace DocCatalog.Toml

/-- Characters that may stand in a string as they are. -/
def isPlain (c : Char) : Bool := c == '\t' || (0x20 ≤ c.toNat && c.toNat != 0x7f)

/-- What a reader found, and what follows. -/
abbrev Read (α : Type) := Option (α × List Char)

def Read.push (c : Char) (r : Read (List Char)) : Read (List Char) :=
  r.map fun (s, rest) => (c :: s, rest)

/-! ## Escapes -/

def hexDigit? (c : Char) : Option Nat :=
  if c.isDigit then some (c.toNat - '0'.toNat)
  else if 'a' ≤ c && c ≤ 'f' then some (c.toNat - 'a'.toNat + 10)
  else if 'A' ≤ c && c ≤ 'F' then some (c.toNat - 'A'.toNat + 10)
  else none

/-- The character with the given number in hexadecimal digits. -/
def charOfHex? (digits : List Char) : Option Char := do
  let n ← digits.foldlM (fun n c => (hexDigit? c).map (16 * n + ·)) 0
  if n.isValidChar then some (Char.ofNat n) else none

/-- The character that an escape stands for, the backslash being read. -/
def escape : List Char → Read Char
  | 'b' :: r => some ('\x08', r)
  | 't' :: r => some ('\t', r)
  | 'n' :: r => some ('\n', r)
  | 'f' :: r => some ('\x0c', r)
  | 'r' :: r => some ('\r', r)
  | 'e' :: r => some ('\x1b', r)
  | '\"' :: r => some ('\"', r)
  | '\\' :: r => some ('\\', r)
  | 'x' :: a :: b :: r => (charOfHex? [a, b]).map (·, r)
  | 'u' :: a :: b :: c :: d :: r => (charOfHex? [a, b, c, d]).map (·, r)
  | 'U' :: a :: b :: c :: d :: e :: f :: g :: h :: r =>
    (charOfHex? [a, b, c, d, e, f, g, h]).map (·, r)
  | _ => none

/-! ## Strings on one line -/

def literal : List Char → Read (List Char)
  | [] => none
  | c :: r =>
    if c == '\'' then some ([], r)
    else if isPlain c then (literal r).push c
    else none

/-- The fuel bounds the number of characters read. -/
def basicFrom : (fuel : Nat) → List Char → Read (List Char)
  | 0, _ | _, [] => none
  | fuel + 1, c :: r =>
    if c == '\"' then some ([], r)
    else if c == '\\' then
      match escape r with
      | some (e, rest) => (basicFrom fuel rest).push e
      | none => none
    else if isPlain c then (basicFrom fuel r).push c
    else none

def basic (s : List Char) : Read (List Char) := basicFrom (s.length + 1) s

/-! ## Strings in triple quotes

Up to two quotes may stand right in front of the three that close a string, and belong to it. -/

/-- The line break at the head of a text. -/
def lineBreak? : List Char → Option (List Char × List Char)
  | '\n' :: r => some (['\n'], r)
  | '\r' :: '\n' :: r => some (['\r', '\n'], r)
  | _ => none

/-- A line break right behind the opening quotes is no part of the string. -/
def dropLineBreak (s : List Char) : List Char := ((lineBreak? s).map (·.2)).getD s

/-- What a backslash at the end of a line leaves out: all blanks and line breaks. -/
def afterContinuation? (s : List Char) : Option (List Char) := do
  let line := s.dropWhile fun c => c == ' ' || c == '\t'
  let _ ← lineBreak? line
  return line.dropWhile fun c => c == ' ' || c == '\t' || c == '\n' || c == '\r'

/-- The number of quotes at the head of a text, as far as they may belong to its end: three that
close the string, after up to two that it ends with. -/
def quotesAt (quote : Char) (s : List Char) : Nat := ((s.take 5).takeWhile (· == quote)).length

def longFrom (quote : Char) (escapes : Bool) : (fuel : Nat) → List Char → Read (List Char)
  | 0, _ | _, [] => none
  | fuel + 1, c :: r =>
    let quotes := quotesAt quote (c :: r)
    if 3 ≤ quotes then some (List.replicate (quotes - 3) quote, (c :: r).drop quotes)
    else if escapes && c == '\\' then
      match afterContinuation? r with
      | some rest => longFrom quote escapes fuel rest
      | none =>
        match escape r with
        | some (e, rest) => (longFrom quote escapes fuel rest).push e
        | none => none
    else
      match lineBreak? (c :: r) with
      | some (broken, rest) =>
        (longFrom quote escapes fuel rest).map fun (s, rest) => (broken ++ s, rest)
      | none => if isPlain c then (longFrom quote escapes fuel r).push c else none

def longLiteral (s : List Char) : Read (List Char) :=
  longFrom '\'' false (s.length + 1) (dropLineBreak s)

def longBasic (s : List Char) : Read (List Char) :=
  longFrom '\"' true (s.length + 1) (dropLineBreak s)

end DocCatalog.Toml
