import DocCatalog.Text.Split
/-!
# Paths

Paths are texts with slashes. What a path says can be read in three ways.

* `Path.steps`: the way that it leads, name by name.
* `Path.components`: its parts as they are written out, without those that lead nowhere.
* `Path.ancestors`: the path and all paths above it.
-/

namespace DocCatalog

/-- A place in a tree of files: the names on the way down from the top. -/
abbrev Place := List String

def Place.text (p : Place) : String := "/" ++ "/".intercalate p

namespace Path

def isAbsolute (path : String) : Bool := path.toList.head? == some '/'

def endsInSlash (path : String) : Bool := path.toList.getLast? == some '/'

/-- What stands between the slashes. -/
def pieces (path : String) : List String :=
  (Text.splitWhere (· == '/') path.toList).map String.ofList

/-- A path that leads from `a` to where `b` leads. An absolute path is kept as it is. -/
def join (a b : String) : String :=
  if isAbsolute b then b
  else if a.isEmpty || endsInSlash a then a ++ b
  else a ++ "/" ++ b

/-! ## Ways -/

/-- A step on a way through a tree. -/
inductive Step where
  | into (name : String)
  | up
  /-- Stays where it is, which has to be a directory. -/
  | here
  deriving DecidableEq, Repr

def Step.ofPiece? : String → Option Step
  | "" => none
  | "." => some .here
  | ".." => some .up
  | name => some (.into name)

/-- Where a step leads from a place. -/
def Step.from (place : Place) : Step → Place
  | .into name => place ++ [name]
  | .up => place.dropLast
  | .here => place

/-- The way along the names of a path, whether it ends in a slash or not. -/
def named (path : String) : List Step := (pieces path).filterMap Step.ofPiece?

/-- The way that a path leads. A slash at its end stands for a directory. -/
def steps (path : String) : List Step :=
  named path ++ if endsInSlash path then [.here] else []

/-! ## Components -/

/-- The parts of a path that lead somewhere. A slash in front and a dot in front are kept. -/
def components (path : String) : List String :=
  let names := (pieces path).filter fun p => p != "" && p != "."
  if isAbsolute path then "/" :: names
  else if (pieces path).head? == some "." then "." :: names
  else names

/-- The components with slashes between them. -/
def tidy (path : String) : String := "/".intercalate (components path)

/-! ## Ancestors

Above a path stand those with fewer pieces, where two dots count as a piece like a name. -/

/-- Whether a piece leads nowhere. -/
def isIdle (piece : String) : Bool := piece == "" || piece == "."

/-- The absolute path of the given pieces, the last one first. -/
def ofReversed (pieces : List String) : String :=
  if pieces.isEmpty then "/" else "/".intercalate pieces.reverse

/-- The pieces of all paths above the one with the given pieces, the last one first. -/
def above : List String → List (List String)
  | [] => []
  | p :: rest => if isIdle p then above rest else rest.dropWhile isIdle :: above rest

/-- An absolute path and all paths above it, up to the top. -/
def ancestors (path : String) : List String :=
  path :: (above (pieces path).reverse).map ofReversed

/-- The path above. The top is its own. -/
def parent (path : String) : String := ((ancestors path)[1]?).getD "/"

end Path

end DocCatalog
