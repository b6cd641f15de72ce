import DocCatalog.Script.Grammar.Statements
/-!
# Parsing scripts

Ties the grammar together and reads whole files.

* `grammar`: the rule of each symbol, where rules refer to symbols through a table.
* `read`: the table itself, down to a given depth. Each nesting costs at most four symbols and at
  least one character, so the depth that `parse` takes suffices for every text.
* `parse`: the tree of a file, or the number of the line at which no tree exists.
-/

namespace DocCatalog.Script

/-- Which of the two grammars a file is written in. -/
inductive Dialect where
  /-- `<T>x` is a type assertion. -/
  | plain
  /-- `<T>` begins markup. -/
  | markup
  deriving DecidableEq, Repr

/-- Files ending in `.tsx` or `.jsx` hold markup. A name that is all ending has none. -/
def Dialect.ofPath (path : String) : Dialect :=
  let name := (path.toList.reverse.takeWhile (· != '/')).reverse
  let ending := (name.reverse.takeWhile (· != '.')).reverse
  let hasStem := ending.length + 1 < name.length
  if hasStem && (String.ofList ending == "tsx" || String.ofList ending == "jsx") then .markup
  else .plain

/-- The rule of each symbol. -/
def grammar (g : Grammar) : Grammar
  | .statement => Rule.statement g
  | .expression => Rule.expression g
  | .binary level => Rule.binary g level
  | .unary => Rule.unary g
  | .constructor => Rule.constructor g
  | .type => Rule.type g
  | .union => Rule.union g
  | .typeOperand => Rule.typeOperand g
  | .pattern => Rule.pattern g
  | .markup => Rule.markup g

/-- Reads a symbol that is nested at most `depth` deep. -/
def read : (depth : Nat) → Symbol → Reader → Except Stop (List Piece × Reader)
  | 0, _, r => Rule.fail r
  | depth + 1, s, r => grammar (read depth) s r

/-- The first line of a program that names its interpreter. -/
def hashBangLength (cs : List Char) : Option Nat :=
  if ['#', '!'].isPrefixOf cs then some (cs.takeWhile (· != '\n')).length else some 0

def hashBang : Rule := do
  let r ← get
  Rule.when (return ['#', '!'].isPrefixOf (r.current.text.toList ++ r.after))
    (Rule.cut .hashBang hashBangLength)

/-- All statements of a file, then the comments behind the last one. -/
def program (g : Grammar) : Parse Node := do
  let statements ←
    hashBang ++ Rule.while_ (return (← get).current.shape != .done) (Rule.outermost (g .statement))
  return .branch .plain .program (Piece.spread statements ++ (← get).current.comments)

/-- The tree of a file. On failure, the number of the line at which reading stopped, from 1. -/
def parse (dialect : Dialect) (text : String) : Except Nat Node :=
  let cs := text.toList
  let reader := Reader.ofText (dialect == .markup) cs
  match program (read (8 * cs.length + 64)) reader with
  | .ok (tree, _) => .ok tree
  | .error stop => .error (stop.row + 1)

end DocCatalog.Script
