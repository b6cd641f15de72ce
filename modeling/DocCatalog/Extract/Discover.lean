import DocCatalog.Config.Basic
import DocCatalog.Files.Access
import DocCatalog.Glob.Search
/-!
# Finding files

* `SourceFile`: a file from which records may be extracted.
* `globs`: the parts of the patterns of a configuration, or what is wrong with one of them.
* `discover`: the files that the patterns of a configuration lead to, each of them once, in the order
  of their routes.
-/

namespace DocCatalog.Extract

structure SourceFile where
  /-- Relative to the root of the project. -/
  path : String
  content : Content
  deriving DecidableEq, Repr

/-- Why no files can be extracted from. -/
inductive DiscoverError where
  | invalidPattern (pattern : String) (cause : Glob.SyntaxError)
  | noMatches (patterns : List String)
  deriving DecidableEq, Repr

namespace DiscoverError

def message : DiscoverError → String
  | .invalidPattern pattern _ => "invalid glob pattern `" ++ pattern ++ "`"
  | .noMatches patterns => "no files matched " ++ ", ".intercalate patterns

def causes : DiscoverError → List String
  | .invalidPattern _ cause => [cause.message]
  | .noMatches _ => []

end DiscoverError

/-- What stands in front of every pattern: the path of the root, in which no character is a wildcard,
and one slash. -/
def patternBase (root : Place) : List Char :=
  let path := (Glob.escape root.text.toList).reverse.dropWhile (· == '/')
  path.reverse ++ ['/']

/-- All patterns below a root, taken apart. The first one that is invalid is reported, with the
position of its error in the whole path. -/
def globs (root : Place) (patterns : List String) : Except DiscoverError (List (List Glob.Part)) :=
  patterns.mapM fun p => (Glob.ofTextBehind (patternBase root) p).mapError (.invalidPattern p)

/-- The file to which a route leads. -/
def fileAt? (t : Tree) (root : Place) (r : Glob.Route) : Option File :=
  t.fileAt? (r.follow root)

/-- The routes that patterns ask for and that lead to files. -/
def fileRoutes (t : Tree) (root : Place) (globs : List (List Glob.Part)) : List Glob.Route :=
  (globs.flatMap (Glob.search t root)).filter fun r => (fileAt? t root r).isSome

/-- Each route once, in order. -/
def distinctRoutes (routes : List Glob.Route) : List Glob.Route :=
  (routes.mergeSort Glob.Route.precedes).eraseReps

/-- The files from which records are extracted. -/
def discover (t : Tree) (root : Place) (c : SourceConfig) :
    Except DiscoverError (List SourceFile) := do
  let routes := distinctRoutes (fileRoutes t root (← globs root c.patterns))
  if routes.isEmpty && c.requireMatches then throw (.noMatches c.patterns)
  return routes.filterMap fun r => (fileAt? t root r).map fun f => ⟨r.text, f.content⟩

end DocCatalog.Extract
