import DocCatalog.Script.Grammar.Types
/-!
# Markup

Elements inside of expressions: names, attributes, children. All of it is one kind of node,
`Kind.markup`; only the expressions in braces are of interest to a reader of the tree.
-/

namespace DocCatalog.Script.Rule

/-- A name of an element or attribute: a word that may hold dashes. -/
def markupNameLength (cs : List Char) : Option Nat :=
  match cs.takeWhile fun c => isWordPart c || c == '-' with
  | [] => none
  | c :: w => if isWordStart c then some (w.length + 1) else none

def markupName : Rule :=
  cut .identifier markupNameLength
    ++ while_ (atAny [".", ":"]) (take .token ++ cut .propertyName markupNameLength)

/-- A reference to a character, such as `&amp;` or `&#160;`. -/
def referenceLength (cs : List Char) : Option Nat :=
  match cs with
  | '&' :: '#' :: x :: r =>
    if x == 'x' || x == 'X' then closed 3 (r.takeWhile isHexDigit).length 6 r
    else closed 2 ((x :: r).takeWhile Char.isDigit).length 5 (x :: r)
  | '&' :: r => closed 1 (r.takeWhile Char.isAlpha).length 30 r
  | _ => none
where
  /-- `n` characters, at most `most`, and a semicolon, behind `before` other ones. -/
  closed (before n most : Nat) (r : List Char) : Option Nat :=
    if 0 < n && n ≤ most && (r.drop n).head? == some ';' then some (before + n + 1) else none

/-- A string up to and with its closing quote. An ampersand before a letter or a number sign has to
begin a reference. -/
def markupQuotedLength (quote : Char) : (fuel : Nat) → List Char → Option Nat
  | 0, _ => none
  | _, [] => none
  | fuel + 1, c :: r =>
    if c == quote then some 1
    else if c == '\x00' then none
    else if c == '&' && (r.head?.map fun d => d == '#' || d.isAlpha).getD false then do
      let n ← referenceLength (c :: r)
      return n + (← markupQuotedLength quote fuel (r.drop (n - 1)))
    else (markupQuotedLength quote fuel r).map (· + 1)

/-- Strings in markup have no escapes and may span lines. -/
def markupStringLength : List Char → Option Nat
  | q :: r =>
    if q == '\"' || q == '\'' then (markupQuotedLength q (r.length + 1) r).map (· + 1) else none
  | [] => none

/-- Text between elements. Braces, angle brackets and ampersands are no text. -/
def markupTextLength (cs : List Char) : Option Nat :=
  some (cs.takeWhile fun c => !(['<', '>', '{', '}', '&', '\x00'].contains c)).length

/-- An expression in braces, which may be empty. -/
def markupHole (g : Grammar) : Rule :=
  node .markup (bracketed "\x7b" "\x7d" (untilAt "\x7d" (do
    if ← at? "..." then node .spread (tok "..." ++ g .expression)
    else commas (g .expression))))

def markupAttribute (g : Grammar) : Rule := do
  if ← at? "\x7b" then markupHole g
  else
    node .markup (markupName ++ whenAt "=" (take .token ++ (do
      if ← at? "\x7b" then markupHole g
      else if ← at? "<" then g .markup
      else cut .string markupStringLength)))

/-- The children of an element up to `</`. -/
def markupChildren (g : Grammar) : Rule := do loop (← get).budget
where
  loop : Nat → Rule
    | 0 => fail
    | n + 1 => do
      let text ← raw .markup markupTextLength
      if ← at? "&" then return text ++ (← raw .markup referenceLength) ++ (← loop n)
      else if (← at? "<") && (← thenAny ["/", "/="]) then return text
      else if ← at? "\x7b" then return text ++ (← markupHole g) ++ (← loop n)
      else if ← at? "<" then return text ++ (← g .markup) ++ (← loop n)
      else fail

/-- An element or a fragment. -/
def markup (g : Grammar) : Rule := node .markup do
  let start ← tok "<"
  if ← at? ">" then
    return start ++ (← take .token ++ markupChildren g ++ tok "<" ++ tok "/" ++ tok ">")
  else
    let head ← markupName ++ whenAt "<" (typeArguments g)
      ++ while_ (return !(← atAny [">", "/"])) (markupAttribute g)
    if ← at? "/" then return start ++ head ++ (← take .token ++ tok ">")
    else
      return start ++ head ++
        (← take .token ++ markupChildren g ++ tok "<" ++ tok "/" ++ markupName ++ tok ">")

end DocCatalog.Script.Rule
