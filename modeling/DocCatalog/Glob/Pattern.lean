import DocCatalog.Text.Split
/-!
# Glob patterns

* `Token`: what a pattern asks of one character or of several.
* `tokens`: the tokens of a pattern, or where and why there are none.
* `accepts`: whether a name is what the tokens ask for.
* `Part`: a pattern between two slashes.
* `escape`: the pattern for one text only.
* `ofTextBehind`, `ofText`: the parts of a whole pattern, behind another one or by itself.
-/

namespace DocCatalog.Glob

/-- The characters of a set: all between two, one being between itself. -/
structure CharRange where
  first : Char
  last : Char
  deriving DecidableEq, Repr

def CharRange.holds (r : CharRange) (c : Char) : Bool := r.first ≤ c && c ≤ r.last

inductive Token where
  | char (c : Char)
  /-- Any one character. -/
  | one
  /-- Any characters, or none. -/
  | many
  /-- Any directories, or none. -/
  | anyDepth
  | within (set : List CharRange)
  | outside (set : List CharRange)
  deriving DecidableEq, Repr

/-! ## Errors -/

inductive Reason where
  | tooManyStars
  | depthInsideName
  | openSet
  deriving DecidableEq, Repr

def Reason.text : Reason → String
  | .tooManyStars => "wildcards are either regular `*` or recursive `**`"
  | .depthInsideName => "recursive wildcards must form a single path component"
  | .openSet => "invalid range pattern"

/-- What is wrong with a pattern, and at which of its characters. -/
structure SyntaxError where
  position : Nat
  reason : Reason
  deriving DecidableEq, Repr

def SyntaxError.message (e : SyntaxError) : String :=
  "Pattern syntax error near position " ++ toString e.position ++ ": " ++ e.reason.text

/-! ## Reading -/

/-- The set that is written with the given characters. -/
def rangesOf : List Char → List CharRange
  | a :: '-' :: b :: r => ⟨a, b⟩ :: rangesOf r
  | c :: r => ⟨c, c⟩ :: rangesOf r
  | [] => []

/-- The set at the head of a text, behind its opening bracket, and what follows the closing one. The
first character of a set may be a closing bracket. -/
def set? : List Char → Option (List CharRange × List Char)
  | [] => none
  | c :: r =>
    let more := r.takeWhile (· != ']')
    match r.drop more.length with
    | [] => none
    | _ :: rest => some (rangesOf (c :: more), rest)

/-- The token of a set, behind its opening bracket. -/
def setToken? : List Char → Option (Token × List Char)
  | '!' :: r => (set? r).map fun (set, rest) => (.outside set, rest)
  | r => (set? r).map fun (set, rest) => (.within set, rest)

/-- Reads the tokens of a pattern from a position on. `starts` holds at the start of a name. Each
token takes a character, so that the length of the pattern suffices as fuel. -/
def tokensFrom : (fuel position : Nat) → (starts : Bool) → List Char →
    Except SyntaxError (List Token)
  | 0, _, _, _ | _, _, _, [] => .ok []
  | fuel + 1, position, _, '?' :: r => (tokensFrom fuel (position + 1) false r).map (.one :: ·)
  | fuel + 1, position, starts, '*' :: r =>
    let stars := 1 + (r.takeWhile (· == '*')).length
    let rest := r.drop (stars - 1)
    if stars == 1 then (tokensFrom fuel (position + 1) false r).map (.many :: ·)
    else if 2 < stars then .error ⟨position + 2, .tooManyStars⟩
    else if !starts then .error ⟨position - 1, .depthInsideName⟩
    else
      match rest with
      | [] => .ok [.anyDepth]
      | '/' :: rest => (tokensFrom fuel (position + 3) true rest).map (.anyDepth :: ·)
      | _ => .error ⟨position + 2, .depthInsideName⟩
  | fuel + 1, position, _, '[' :: r =>
    match setToken? r with
    | none => .error ⟨position, .openSet⟩
    | some (token, rest) =>
      (tokensFrom fuel (position + 1 + (r.length - rest.length)) false rest).map (token :: ·)
  | fuel + 1, position, _, c :: r =>
    (tokensFrom fuel (position + 1) (c == '/') r).map (.char c :: ·)

/-- The tokens of a pattern. -/
def tokens (pattern : List Char) : Except SyntaxError (List Token) :=
  tokensFrom (pattern.length + 1) 0 true pattern

/-- The pattern for one character. What could be read as a wildcard is put in a set of its own. -/
def escapeChar (c : Char) : List Char :=
  if c == '?' || c == '*' || c == '[' || c == ']' then ['[', c, ']'] else [c]

/-- The pattern that asks for just the given text. -/
def escape (text : List Char) : List Char := text.flatMap escapeChar

/-! ## Matching

A name is matched as a whole, and only a star leaves a choice of how. -/

/-- Whether a character is what a token for one character asks for. -/
def Token.takes : Token → Char → Bool
  | .char a, c => a == c
  | .one, _ => true
  | .within set, c => set.any (·.holds c)
  | .outside set, c => !set.any (·.holds c)
  | .many, _ | .anyDepth, _ => false

/-- Whether a rest of a text satisfies `p`, the whole text or what is left after any characters. -/
def anySuffix (p : List Char → Bool) : List Char → Bool
  | [] => p []
  | c :: r => p (c :: r) || anySuffix p r

/-- Whether the whole name is what the tokens ask for. -/
def accepts : List Token → List Char → Bool
  | [], name => name.isEmpty
  | .many :: ts, name | .anyDepth :: ts, name => anySuffix (accepts ts) name
  | _ :: _, [] => false
  | t :: ts, c :: name => t.takes c && accepts ts name

/-! ## Parts

A pattern is applied directory by directory, so it is cut at its slashes. -/

/-- A pattern between two slashes. -/
inductive Part where
  /-- A name without wildcards. -/
  | name (name : String)
  /-- The same directory. -/
  | here
  /-- The directory above. -/
  | up
  | wild (tokens : List Token)
  /-- All directories below. -/
  | anyDepth
  deriving DecidableEq, Repr

def hasWildcard (piece : List Char) : Bool := piece.any fun c => c == '*' || c == '?' || c == '['

def Part.ofPiece (piece : List Char) : Except SyntaxError Part := do
  if piece.isEmpty || piece == ['.'] then return .here
  else if piece == ['.', '.'] then return .up
  else if hasWildcard piece then
    match ← tokens piece with
    | [.anyDepth] => return .anyDepth
    | ts => return .wild ts
  else return .name (String.ofList piece)

/-- Whether a name is what the part asks for. -/
def Part.acceptsName : Part → String → Bool
  | .name n, s => n == s
  | .wild ts, s => accepts ts s.toList
  | .here, _ | .up, _ | .anyDepth, _ => false

/-- Several parts for any depth in a row say no more than one. -/
def collapse : List Part → List Part
  | .anyDepth :: .anyDepth :: ps => collapse (.anyDepth :: ps)
  | p :: ps => p :: collapse ps
  | [] => []

/-- The parts of a pattern that stands behind `before`. Both are read as one text, so that the position
of an error counts from the start of `before`. A slash at the end of the pattern asks for a directory. A
set cannot hold a slash, since that would end its part: this is found when the pieces are read one by
one, and its position counts from the start of the piece. -/
def ofTextBehind (before : List Char) (text : String) : Except SyntaxError (List Part) := do
  let _ ← tokens (before ++ text.toList)
  let parts ← (Text.splitWhere (· == '/') text.toList).mapM Part.ofPiece
  return collapse parts

/-- The parts of a pattern by itself. -/
def ofText (text : String) : Except SyntaxError (List Part) := ofTextBehind [] text

end DocCatalog.Glob
