import DocCatalog.Script.Lexeme
/-!
# Reading a script

The state and the vocabulary of the grammar: a `Rule` reads lexemes and gives the nodes it read.

* `Piece`: a node that still carries the comments in front of it. `node` puts these comments where
  they belong: before the first child of a new node they stay outside it, between two children they
  become children themselves. So a comment lies in the smallest node that has lexemes on both
  sides of it.
* `Reader.lineEnd?`: where a line break ends a statement that has no semicolon.
* `Reader.stopRow`: the row of the first bad part of a text that cannot be read.
* `Rule`: `tok`, `take`, `++`, `node`, `either`, `whenAt`, `untilAt`, so that a production reads as
  in a grammar.
-/

namespace DocCatalog.Script

/-- A node with the comments in front of it, which its parent takes over. -/
structure Piece where
  comments : List Node
  node : Node

/-- The nodes of pieces, each after its comments. -/
def Piece.spread (ps : List Piece) : List Node := ps.flatMap fun p => p.comments ++ [p.node]

/-- A new node over the pieces. The comments in front of the first one stay in front. -/
def Piece.gather (kind : Kind) : List Piece → List Piece
  | [] => []
  | p :: ps => [⟨p.comments, .branch .plain kind (p.node :: Piece.spread ps)⟩]

/-- The pieces in the given part of their parent. -/
def Piece.inRole (role : Role) (ps : List Piece) : List Piece :=
  ps.map fun p => { p with node := p.node.withRole role }

/-- Where reading stopped: how many lexemes were taken before, and on which row. -/
structure Stop where
  taken : Nat
  row : Nat

/-- The farther of two stops. -/
def Stop.max (a b : Stop) : Stop := if b.taken < a.taken then a else b

structure Reader where
  /-- Whether `<` may begin markup. -/
  markup : Bool
  /-- A bound on the number of lexemes, for loops. -/
  budget : Nat
  /-- The text after the last lexeme taken, and the row on which it begins. -/
  here : List Char
  hereRow : Nat
  /-- The lexeme to be taken next, and the text after it. -/
  current : Lexeme
  after : List Char
  taken : Nat
  /-- The farthest stop of the readings that have been given up for another. -/
  farthest : Stop
  /-- How many lexemes had been taken where the innermost statement or member began. -/
  begun : Nat
  /-- The row on which the outermost statement began. -/
  outerRow : Nat
  /-- Inside brackets, where a line break ends nothing. -/
  closed : Bool
  /-- In the head of a loop, where `in` is no operator. -/
  noIn : Bool

namespace Reader

/-- Goes on at `cs`, which begins on `row`. -/
def jump (r : Reader) (cs : List Char) (row : Nat) : Reader :=
  let (lexeme, after) := Lexeme.next r.budget [] cs row
  { r with here := cs, hereRow := row, current := lexeme, after := after, taken := r.taken + 1 }

def ofText (markup : Bool) (cs : List Char) : Reader :=
  jump ⟨markup, cs.length + 1, [], 0, default, [], 0, ⟨0, 0⟩, 0, 0, false, false⟩ cs 0

/-- The lexeme after the current one. -/
def following (r : Reader) : Lexeme :=
  (Lexeme.next r.budget [] r.after r.current.lastRow).1

/-- Whether a word beginning with `i` is an operator, which goes on with the line before. -/
def isWordOperator (w : List Char) : Bool :=
  match w with
  | 'i' :: 'n' :: r =>
    notAlpha r || ("stanceof".toList.isPrefixOf r && notAlpha (r.drop 8))
  | _ => false
where
  notAlpha (r : List Char) : Bool := !(r.head?.map Char.isAlpha).getD false

/-- Whether a lexeme at the head of a line begins a new statement. An operator, a dot or a comma
goes on with the line before; so do brackets after an expression, and a body after a signature. -/
def beginsStatement (operators signature : Bool) (l : Lexeme) : Bool :=
  match l.text.toList with
  | [] => true
  | c :: r =>
    if "\x60,.;*%><=?^|&/:".toList.contains c then false
    else if c == '{' then !signature
    else if c == '(' || c == '[' then !operators
    else if c == '+' || c == '-' then r.head? == some c
    else if c == '!' then r.head? != some '='
    else !isWordOperator (c :: r)

/-- How many of the comments before the current lexeme belong to a statement that ends before it
without a semicolon, or `none` if it does not end there. A statement ends at a line feed that is
followed by the beginning of a statement, before a closing brace, and at the end of the text.
Comments before the line feed belong to it.

`operators`: an operator could follow. `signature`: a body could follow. -/
def lineEnd? (r : Reader) (operators signature : Bool) : Option Nat :=
  go 0 r.current.comments
where
  breaks (gap : String) : Option Bool :=
    let blanks := gap.toList.takeWhile fun c => isLineGap c && c != '\n'
    match gap.toList.drop blanks.length with
    | [] => some false
    | c :: _ => if c == '\n' then some true else none
  go (seen : Nat) : List Node → Option Nat
    | [] =>
      match breaks r.current.gap with
      | none => none
      | some true => if beginsStatement operators signature r.current then some seen else none
      | some false =>
        if r.current.shape == .done then some seen
        else if r.current.text == "\x7d" then
          if (r.after.dropWhile isLineGap).head? == some ':' && !operators then none
          else some seen
        else none
    | c :: cs =>
      match breaks (gapOf c) with
      | none => none
      | some true => if beginsStatement operators signature r.current then some seen else none
      | some false => go (seen + 1) cs
  gapOf : Node → String
    | .leaf _ _ gap _ _ _ => gap
    | .branch .. => ""

/-- The row of the first bad part if reading stops here. A lexeme that begins no statement is bad
itself. A statement that cannot go on is bad where it was left, behind its last lexeme, or as a
whole if the text ends in it. -/
def stopRow (r : Reader) : Nat :=
  let ended := r.current.shape == .done
  if r.taken == r.begun then if ended then r.hereRow else r.current.row
  else if ended then r.outerRow
  else if r.current.shape == .stray then r.current.row
  else r.hereRow

/-- Whether a line break before the current lexeme ends the expression before it. -/
def lineEnds (r : Reader) : Bool := !r.closed && (r.lineEnd? true false).isSome

end Reader

/-! ## Rules

What a rule has read is given up only where `either` goes back for another one. -/

abbrev Parse := StateT Reader (Except Stop)

/-- Reads part of a script and gives the nodes it read. -/
abbrev Rule := Parse (List Piece)

namespace Rule

/-- One rule after the other. -/
instance : Append Rule := ⟨fun a b => do return (← a) ++ (← b)⟩

/-- Reads nothing. -/
def nothing : Rule := pure []

/-- Stops here. -/
def fail {α : Type} : Parse α := fun r => .error (r.farthest.max ⟨r.taken, r.stopRow⟩)

/-- The first rule, or else the second from the same place. The farthest stop counts, even if the
second rule reads something. -/
def either (a b : Rule) : Rule := fun r =>
  match a r with
  | .ok x => .ok x
  | .error e => b { r with farthest := r.farthest.max e }

/-! ### What stands here -/

def current : Parse Lexeme := return (← get).current

def following : Parse Lexeme := return (← get).following

def at? (s : String) : Parse Bool := return (← current).isKey s

def atAny (ss : List String) : Parse Bool := return (← current).isAny ss

def atWord : Parse Bool := return (← current).shape == .word

/-- Whether the lexeme after the current one is one of the given. -/
def thenAny (ss : List String) : Parse Bool := return (← following).isAny ss

def thenWord : Parse Bool := return (← following).shape == .word

/-! ### Reading lexemes -/

/-- The current lexeme as a leaf. -/
def take (kind : Kind) : Rule := fun r =>
  let l := r.current
  if l.shape == .done || l.shape == .stray then fail r
  else .ok ([⟨l.comments, .leaf .plain kind l.gap l.text l.row l.lastRow⟩],
    r.jump r.after l.lastRow)

/-- The given punctuation or keyword. -/
def tok (s : String) : Rule := do if ← at? s then take .token else fail

/-- Any word. -/
def word (kind : Kind) : Rule := do if ← atWord then take kind else fail

/-- Cuts a leaf of the given length out of the text, from the current lexeme's first character. -/
def cut (kind : Kind) (length : List Char → Option Nat) : Rule := fun r =>
  let l := r.current
  let cs := l.text.toList ++ r.after
  match length cs with
  | none => fail r
  | some n =>
    let body := cs.take n
    let last := l.row + rowsIn body
    .ok ([⟨l.comments, .leaf .plain kind l.gap (String.ofList body) l.row last⟩],
      r.jump (cs.drop n) last)

/-- Cuts a leaf of the given length directly behind the last lexeme, where blanks are text. -/
def raw (kind : Kind) (length : List Char → Option Nat) : Rule := fun r =>
  match length r.here with
  | none => fail r
  | some 0 => .ok ([], r)
  | some n =>
    let body := r.here.take n
    let last := r.hereRow + rowsIn body
    .ok ([⟨[], .leaf .plain kind "" (String.ofList body) r.hereRow last⟩],
      r.jump (r.here.drop n) last)

/-! ### Composing -/

/-- The rule as a statement or member of its own. -/
def beginning (a : Rule) : Rule := fun r => a { r with begun := r.taken }

/-- The rule as an outermost statement. -/
def outermost (a : Rule) : Rule := fun r => a { r with outerRow := r.current.row }

/-- What the rule reads, as one node. -/
def node (kind : Kind) (a : Rule) : Rule := return Piece.gather kind (← a)

/-- What the rule reads, as one node unless it is one already. -/
def joined (kind : Kind) (a : Rule) : Rule := do
  let ps ← a
  return if ps.length == 1 then ps else Piece.gather kind ps

/-- What the rule reads, in the given part of its parent. -/
def inRole (role : Role) (a : Rule) : Rule :=
  return Piece.inRole role (← a)

/-- The rule if `c` holds here, else nothing. -/
def when (c : Parse Bool) (a : Rule) : Rule := do if ← c then a else nothing

/-- The rule if the given keyword stands here, else nothing. -/
def whenAt (s : String) (a : Rule) : Rule := when (at? s) a

/-- The keyword if it stands here. -/
def optTok (s : String) : Rule := whenAt s (take .token)

/-- The rule as long as `c` holds. -/
def while_ (c : Parse Bool) (a : Rule) : Rule := do loop (← get).budget
where
  loop : Nat → Rule
    | 0 => fail
    | n + 1 => do if ← c then return (← a) ++ (← loop n) else return []

/-- The rule until the given keyword stands here. -/
def untilAt (s : String) (a : Rule) : Rule := while_ (return !(← at? s)) a

/-- Items with commas between them, up to the closing mark. -/
def commaList (close : String) (item : Rule) : Rule :=
  untilAt close do
    let first ← item
    if ← at? close then return first else return first ++ (← tok ",")

/-- At least one item, with commas between them. -/
def commas (item : Rule) : Rule := item ++ while_ (at? ",") (take .token ++ item)

/-- Reads on in a changed setting. The setting is the old one again afterwards. -/
def setting (f : Reader → Reader) (a : Rule) : Rule := fun r =>
  match a (f r) with
  | .ok (x, s) => .ok (x, { s with closed := r.closed, noIn := r.noIn })
  | .error e => .error e

/-- Inside brackets a line break ends nothing and `in` is an operator. -/
def enclosed (a : Rule) : Rule := setting ({ · with closed := true, noIn := false }) a

/-- Inside a body a line break may end a statement. -/
def inBody (a : Rule) : Rule := setting ({ · with closed := false, noIn := false }) a

def bracketed (openMark closeMark : String) (a : Rule) : Rule :=
  tok openMark ++ enclosed a ++ tok closeMark

/-! ### Ends of statements

A line break ends a statement that cannot go on behind it. -/

/-- Ends a statement without a semicolon: reads the comments before the line break. -/
def lineBreak (operators signature : Bool) : Rule := fun r =>
  match r.lineEnd? operators signature with
  | none => fail r
  | some n =>
    let (mine, rest) := r.current.comments.splitAt n
    .ok (mine.map (⟨[], ·⟩), { r with current := { r.current with comments := rest } })

/-- A line break if one ends a statement here. -/
def optLineBreak (operators : Bool) : Rule := either (lineBreak operators false) nothing

/-- A semicolon, or a line break in its place. -/
def semicolon (operators : Bool) : Rule := do
  if ← at? ";" then take .token else lineBreak operators false

end Rule

/-! ## Symbols

Recursive rules read each other through symbols, so that the recursion of the grammar is on a depth
alone. -/

/-- The symbols through which the grammar is recursive. -/
inductive Symbol where
  | statement
  /-- An expression without commas. -/
  | expression
  /-- Operands joined by operators that bind more tightly than the given level. -/
  | binary (level : Nat)
  | unary
  /-- What may follow `new`: no call of its own. -/
  | constructor
  | type
  /-- Types joined by `|` and `&`. -/
  | union
  | typeOperand
  | pattern
  | markup
  deriving Repr

/-- The rules of the recursive symbols. -/
abbrev Grammar := Symbol → Rule

end DocCatalog.Script
