import DocCatalog.Text.Split
/-!
# Literals

What stands between the delimiters of a string or template literal, and the text it stands for.

* `unescape`: a backslash before `n`, `t`, `r` or `0` is a control character, before a line feed it
  is nothing, and before any other character it is that character. A backslash at the very end
  stays.
-/

namespace DocCatalog.Script.Literal

/-- Whether the character delimits literals. -/
def isDelimiter (c : Char) : Bool := c == '\'' || c == '\"' || c == '\x60'

/-- The text without the delimiters around it. Both must be there, and equal. -/
def stripDelimiters (s : List Char) : List Char :=
  match s, s.getLast? with
  | opening :: body, some closing =>
    if !body.isEmpty && opening == closing && isDelimiter opening then body.dropLast else s
  | _, _ => s

/-- The character that a backslash before `c` stands for; none before a line feed. -/
def escaped (c : Char) : Option Char :=
  match c with
  | 'n' => some '\n'
  | 't' => some '\t'
  | 'r' => some '\r'
  | '0' => some '\x00'
  | '\n' => none
  | c => some c

/-- The text that the body of a literal stands for. -/
def unescape : List Char → List Char
  | [] => []
  | ['\\'] => ['\\']
  | '\\' :: c :: r => (escaped c).toList ++ unescape r
  | c :: r => c :: unescape r

/-- The text that a literal stands for, delimiters included. -/
def value (literal : String) : String :=
  String.ofList (unescape (stripDelimiters literal.toList))

end DocCatalog.Script.Literal
