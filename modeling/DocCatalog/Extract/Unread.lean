import DocCatalog.Extract.Merge
/-!
# Paths that cannot be read

A search for files may meet directories that it is refused to read. It goes on past them, and what it
could not read is reported in front of what the files give.

* `Walk`: what a search meets for each pattern.
* `discoverBy`, `extractBy`: finding files and extracting from them along a walk.
* `extractBy_ofTree`: on a walk that is refused nothing this is `extract`.
-/

namespace DocCatalog.Extract

/-- A path that a search cannot read, and why. -/
structure UnreadPath where
  route : Glob.Route
  cause : FileError
  deriving DecidableEq, Repr

/-- What is reported of a path that cannot be read. It has no line. -/
def UnreadPath.diagnostic (u : UnreadPath) : Diagnostic :=
  (Finding.unreadPath u.cause.text).place u.route.text none

/-- What a search for a pattern meets, one after the other. -/
abbrev Walk := List Glob.Part → List (Except UnreadPath Glob.Route)

/-- The search of a tree that is refused nothing. -/
def Walk.ofTree (t : Tree) (root : Place) : Walk := fun parts =>
  (Glob.search t root parts).map .ok

/-- The report of what a search has met, if that could not be read. -/
def unread? : Except UnreadPath Glob.Route → Option Diagnostic
  | .error u => some u.diagnostic
  | .ok _ => none

/-- The files that a walk leads to, and what it could not read. What is met twice in a row is reported
once. -/
def discoverBy (walk : Walk) (t : Tree) (root : Place) (c : SourceConfig) :
    Except DiscoverError (List SourceFile × List Diagnostic) := do
  let found := (← globs root c.patterns).flatMap walk
  let routes := distinctRoutes
    ((found.filterMap Except.toOption).filter fun r => (fileAt? t root r).isSome)
  if routes.isEmpty && c.requireMatches then throw (.noMatches c.patterns)
  return (routes.filterMap fun r => (fileAt? t root r).map fun f => ⟨r.text, f.content⟩,
    (found.filterMap unread?).eraseReps)

variable {ρ : Type} [Catalogued ρ]

/-- Merges the results of files, behind what could not be read on the way to them. -/
def mergeBehind (unread : List Diagnostic) (results : List (String × FileResult ρ)) : Extraction ρ :=
  let e := merge results
  { e with diagnostics := unread ++ e.diagnostics }

/-- Extracts from all files that a walk leads to. -/
def extractBy (walk : Walk) (ofFile : Outline → String → FileResult ρ) (t : Tree) (root : Place)
    (c : SourceConfig) : Except DiscoverError (Extraction ρ) := do
  let (sources, unread) ← discoverBy walk t root c
  return mergeBehind unread (sources.map fun s => (s.path, ofSource ofFile s))

/-! ## Where nothing is refused

A tree by itself refuses nothing. A walk finds there what the search through the tree finds. -/

theorem filterMap_toOption_ofTree (t : Tree) (root : Place) (globs : List (List Glob.Part)) :
    (globs.flatMap (Walk.ofTree t root)).filterMap Except.toOption
      = globs.flatMap (Glob.search t root) := by
  induction globs with
  | nil => rfl
  | cons parts globs ih =>
    have hparts : (Walk.ofTree t root parts).filterMap Except.toOption = Glob.search t root parts := by
      rw [Walk.ofTree, List.filterMap_map]
      exact List.filterMap_some
    rw [List.flatMap_cons, List.filterMap_append, hparts, ih, List.flatMap_cons]

theorem filterMap_unread?_ofTree (t : Tree) (root : Place) (globs : List (List Glob.Part)) :
    (globs.flatMap (Walk.ofTree t root)).filterMap unread? = [] := by
  refine List.filterMap_eq_nil_iff.mpr fun found hfound => ?_
  obtain ⟨parts, -, hmem⟩ := List.mem_flatMap.mp hfound
  obtain ⟨r, -, rfl⟩ := List.mem_map.mp hmem
  rfl

theorem discoverBy_ofTree (t : Tree) (root : Place) (c : SourceConfig) :
    discoverBy (.ofTree t root) t root c = (discover t root c).map (·, []) := by
  unfold discoverBy discover fileRoutes
  cases globs root c.patterns with
  | error e => rfl
  | ok gs =>
    simp only [bind, Except.bind, filterMap_toOption_ofTree, filterMap_unread?_ofTree]
    split <;> rfl

/-- Where everything can be read, only files have diagnostics. -/
theorem extractBy_ofTree (ofFile : Outline → String → FileResult ρ) (t : Tree) (root : Place)
    (c : SourceConfig) : extractBy (.ofTree t root) ofFile t root c = extract ofFile t root c := by
  unfold extractBy extract
  rw [discoverBy_ofTree]
  cases discover t root c with
  | error e => rfl
  | ok sources => rfl

end DocCatalog.Extract
