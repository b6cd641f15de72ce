/-!
# Literals of generated code

* `quote`: a single-quoted literal. It holds no line breaks.
* `template`: a template literal. Line breaks stay as they are.
-/

namespace DocCatalog.Emit

/-- A character of a single-quoted literal. -/
def escapeSingleChar (c : Char) : List Char :=
  match c with
  | '\\' => ['\\', '\\']
  | '\'' => ['\\', '\'']
  | '\x60' => ['\\', '\x60']
  | '\n' => ['\\', 'n']
  | '\r' => ['\\', 'r']
  | '\t' => ['\\', 't']
  | '\u2028' => "\\u2028".toList
  | '\u2029' => "\\u2029".toList
  | c => [c]

/-- The body of a single-quoted literal. -/
def escapeSingle (s : List Char) : List Char := s.flatMap escapeSingleChar

/-- A character of a template literal. -/
def escapeTemplateChar (c : Char) : List Char :=
  if c == '\\' || c == '\x60' || c == '$' then ['\\', c] else [c]

/-- The body of a template literal. -/
def escapeTemplate (s : List Char) : List Char := s.flatMap escapeTemplateChar

/-- The text as a single-quoted literal. -/
def quote (s : String) : String := "'" ++ String.ofList (escapeSingle s.toList) ++ "'"

/-- The text as a template literal. -/
def template (s : String) : String := "\x60" ++ String.ofList (escapeTemplate s.toList) ++ "\x60"

end DocCatalog.Emit
