import DocCatalog.Files.Tree
import DocCatalog.Glob.Pattern
/-!
# Searching a tree

* `Route`: the way from where a search starts to what it found.
* `search`: the routes that the parts of a pattern ask for.
* `Route.precedes`: the order of routes, name by name.
-/

namespace DocCatalog.Glob

/-- A step of a route. -/
inductive Turn where
  | up
  | into (name : String)
  deriving DecidableEq, Repr

/-- A way through a tree, up and down. -/
abbrev Route := List Turn

def Turn.text : Turn → String
  | .up => ".."
  | .into name => name

/-- Where a turn leads from a place. -/
def Turn.from (place : Place) : Turn → Place
  | .up => place.dropLast
  | .into name => place ++ [name]

namespace Route

def text (r : Route) : String := "/".intercalate (r.map Turn.text)

/-- Where a route leads from a place. -/
def follow (start : Place) (r : Route) : Place := r.foldl Turn.from start

/-- The way up comes before all names, and names are in the order of their code points. -/
def precedes : Route → Route → Bool
  | [], _ => true
  | _ :: _, [] => false
  | .up :: r, .up :: s => precedes r s
  | .up :: _, .into _ :: _ => true
  | .into _ :: _, .up :: _ => false
  | .into a :: r, .into b :: s =>
    match compare a b with
    | .lt => true
    | .gt => false
    | .eq => precedes r s

end Route

/-- Whether a pattern that begins with a dot also stands for the directory itself, or the one above. A
pattern that begins with a wildcard never does. -/
def acceptsDots (ts : List Token) (dots : List Char) : Bool :=
  ts.head? == some (.char '.') && accepts ts dots

/-- The routes that begin with `r` and go on as the parts ask for. Every part leads on from a
directory. A part behind one for any depth stands for the name of anything below. -/
def searchFrom (t : Tree) (root : Place) : List Part → (r : Route) → List Route
  | [], r => [r]
  | .anyDepth :: rest, r =>
    let place := r.follow root
    if t.get? place != some .directory then []
    else
      match rest with
      | [] =>
        ((t.descendants place).filter fun (_, e) => e == .directory).map fun (way, _) =>
          r ++ way.map .into
      | part :: rest =>
        let named := (t.descendants place).filter fun (way, _) =>
          part.acceptsName (way.getLast?.getD "")
        named.flatMap fun (way, _) => searchFrom t root rest (r ++ way.map .into)
  | part :: rest, r =>
    let place := r.follow root
    if t.get? place != some .directory then []
    else
      match part with
      | .here => searchFrom t root rest r
      | .up => searchFrom t root rest (r ++ [.up])
      | .name n =>
        if (t.get? (place ++ [n])).isSome then searchFrom t root rest (r ++ [.into n]) else []
      | .wild ts =>
        let named := (t.children place).filter fun (n, _) => accepts ts n.toList
        named.flatMap (fun (n, _) => searchFrom t root rest (r ++ [.into n]))
          ++ (if acceptsDots ts ['.'] then searchFrom t root rest r else [])
          ++ (if acceptsDots ts ['.', '.'] then searchFrom t root rest (r ++ [.up]) else [])
      | .anyDepth => []

/-- The routes from the root that the parts of a pattern ask for. -/
def search (t : Tree) (root : Place) (parts : List Part) : List Route := searchFrom t root parts []

end DocCatalog.Glob
