/-!
# Identifiers

The names that can be keys of a generated table: ASCII identifiers that are no reserved words.
-/

namespace DocCatalog.Emit

/-- The words that the language keeps for itself. -/
def reservedWords : List String :=
  ["arguments", "await", "break", "case", "catch", "class", "const", "continue", "debugger",
   "default", "delete", "do", "else", "enum", "eval", "export", "extends", "false", "finally",
   "for", "function", "if", "implements", "import", "in", "instanceof", "interface", "let",
   "new", "null", "package", "private", "protected", "public", "return", "static", "super",
   "switch", "this", "throw", "true", "try", "typeof", "var", "void", "while", "with", "yield"]

def isIdentifierStart (c : Char) : Bool := c.isAlpha || c == '_' || c == '$'

def isIdentifierPart (c : Char) : Bool := c.isAlphanum || c == '_' || c == '$'

/-- Whether a name can be a key. -/
def isIdentifier (name : String) : Bool :=
  match name.toList with
  | [] => false
  | c :: r => isIdentifierStart c && r.all isIdentifierPart && !reservedWords.contains name

end DocCatalog.Emit
