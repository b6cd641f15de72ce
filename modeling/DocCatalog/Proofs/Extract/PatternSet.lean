import DocCatalog.Extract.Pattern
import DocCatalog.Proofs.Files.Pieces
import DocCatalog.Proofs.Glob.Reach

/-!
# Patterns are a set

Which files are extracted from, and in which order, depends on what the patterns ask for together: not
on their order, not on how often one of them is given, and not on whether two ask for the same file.

* **`Path.Before`**: the order of paths, component by component.
* **`Tree.WellNamed`**: names are names, so that a route can be read off its text.
* **`before_of_precedes`**: the order of routes is that of their texts.
* **`Matches`**, **`Covers`**: what a pattern asks for, and a list of exactly what patterns ask for.
* **`extract_patternSet`**: the same patterns give the same extraction, file by file in order.
-/

namespace DocCatalog

/-! ## The order of paths

Paths are compared part by part, with two dots before any name. That is the order in which routes
are put. -/

namespace Path

/-- What decides about a component: the way up comes before all names. -/
def rank (component : String) : Option String := if component = ".." then none else some component

/-- One path comes before another, component by component, names by their code points. -/
def Before (a b : String) : Prop := (pieces a).map rank < (pieces b).map rank

/-- No path is before itself. -/
theorem not_before_self (a : String) : ¬ Before a a := by
  have hirrefl : ∀ ranks : List (Option String), ¬ ranks < ranks := by
    intro ranks
    induction ranks with
    | nil => exact List.not_lt_nil []
    | cons r ranks ih =>
        rw [List.cons_lt_cons_iff]
        rintro (hr | ⟨-, hrest⟩)
        · cases r with
          | none => cases hr
          | some n => exact String.lt_irrefl n hr
        · exact ih hrest
  exact hirrefl _

end Path

/-- No name in the tree is empty, stands for a way, or holds a slash. -/
def Tree.WellNamed (t : Tree) : Prop :=
  ∀ e ∈ t.entries, ∀ n ∈ e.1, n ≠ "" ∧ n ≠ "." ∧ n ≠ ".." ∧ '/' ∉ n.toList

instance (t : Tree) : Decidable t.WellNamed := by
  unfold Tree.WellNamed
  infer_instance

namespace Glob

open DocCatalog.Tree

/-! ## Routes and their texts

A route is written as a path. In a tree with proper names the parts of the path are the steps of the
route again, so that the order of routes is that of paths. -/

/-- All names on the route are names in the tree. -/
def NamesIn (t : Tree) (r : Route) : Prop := ∀ n, .into n ∈ r → ∃ e ∈ t.entries, n ∈ e.1

section NamesIn

variable {t : Tree} {r : Route}

/-- Names of the tree can be added. -/
theorem NamesIn.append (h : NamesIn t r) {place : Place} (way : Place) {e : Entry}
    (he : (place ++ way, e) ∈ t.entries) : NamesIn t (r ++ way.map Turn.into) := by
  intro n hn
  rcases List.mem_append.mp hn with hr | hway
  · exact h n hr
  · obtain ⟨m, hm, hmn⟩ := List.mem_map.mp hway
    cases hmn
    exact ⟨_, he, List.mem_append_right place hm⟩

/-- A step up adds no name. -/
theorem NamesIn.up (h : NamesIn t r) : NamesIn t (r ++ [Turn.up]) := by
  intro n hn
  rcases List.mem_append.mp hn with hr | hup
  · exact h n hr
  · cases List.mem_singleton.mp hup

/-- **A search goes by names that are there.** -/
theorem namesIn_of_mem_searchFrom (t : Tree) (top : Place) {found : Route} :
    ∀ (parts : List Part) (r : Route), NamesIn t r → found ∈ searchFrom t top parts r →
      NamesIn t found
  | [], r, h, hfound => by
      rw [searchFrom_nil, List.mem_singleton] at hfound
      rwa [hfound]
  | .here :: rest, r, h, hfound => by
      rw [searchFrom_here, mem_guard] at hfound
      exact namesIn_of_mem_searchFrom t top rest r h hfound.2
  | .up :: rest, r, h, hfound => by
      have hup : searchFrom t top (.up :: rest) r
          = if t.get? (r.follow top) != some .directory then []
            else searchFrom t top rest (r ++ [.up]) := rfl
      rw [hup, mem_guard] at hfound
      exact namesIn_of_mem_searchFrom t top rest _ h.up hfound.2
  | .name n :: rest, r, h, hfound => by
      rw [searchFrom_name, mem_guard] at hfound
      obtain ⟨-, hfound⟩ := hfound
      split at hfound
      · next hthere =>
          obtain ⟨⟨q, e⟩, he, rfl⟩ := (get?_ne_none (by simp)).mp (Option.isSome_iff_ne_none.mp hthere)
          exact namesIn_of_mem_searchFrom t top rest _ (h.append [n] he) hfound
      · cases hfound
  | .wild ts :: rest, r, h, hfound => by
      rw [searchFrom_wild, mem_guard, List.mem_append, List.mem_append] at hfound
      -- a name is taken, or the wildcard stands for the directory itself, or the one above
      rcases hfound.2 with (hnamed | hdot) | hdots
      · obtain ⟨⟨n, e⟩, hmem, hfound⟩ := List.mem_flatMap.mp hnamed
        have he := mem_children.mp (List.mem_filter.mp hmem).1
        exact namesIn_of_mem_searchFrom t top rest _ (h.append [n] he) hfound
      · split at hdot
        · exact namesIn_of_mem_searchFrom t top rest r h hdot
        · cases hdot
      · split at hdots
        · exact namesIn_of_mem_searchFrom t top rest _ h.up hdots
        · cases hdots
  | [.anyDepth], r, h, hfound => by
      rw [searchFrom_lastDepth, mem_guard] at hfound
      obtain ⟨⟨way, e⟩, hmem, rfl⟩ := List.mem_map.mp hfound.2
      exact h.append way (mem_descendants.mp (List.mem_filter.mp hmem).1).2
  | .anyDepth :: part :: rest, r, h, hfound => by
      rw [searchFrom_anyDepth, mem_guard] at hfound
      obtain ⟨⟨way, e⟩, hmem, hfound⟩ := List.mem_flatMap.mp hfound.2
      have he := (mem_descendants.mp (List.mem_filter.mp hmem).1).2
      exact namesIn_of_mem_searchFrom t top rest _ (h.append way he) hfound

end NamesIn

/-- How a step counts in the order of paths. -/
def Turn.rank : Turn → Option String
  | .up => none
  | .into n => some n

/-- A route in a tree with proper names can be read off its text. -/
theorem rank_pieces_text {t : Tree} (hw : t.WellNamed) {r : Route} (hr : NamesIn t r) (hne : r ≠ []) :
    (Path.pieces r.text).map Path.rank = r.map Turn.rank := by
  have hproper : ∀ turn ∈ r, '/' ∉ turn.text.toList ∧ Path.rank turn.text = turn.rank := by
    intro turn hturn
    cases turn with
    | up => exact ⟨by decide, rfl⟩
    | into n =>
        obtain ⟨e, he, hn⟩ := hr n hturn
        obtain ⟨-, -, hup, hslash⟩ := hw e he n hn
        exact ⟨hslash, if_neg hup⟩
  have hpieces : Path.pieces r.text = r.map Turn.text := by
    refine Path.pieces_intercalate _ (by simpa using hne) fun piece hpiece => ?_
    obtain ⟨turn, hturn, rfl⟩ := List.mem_map.mp hpiece
    exact (hproper turn hturn).1
  rw [hpieces, List.map_map]
  exact List.map_congr_left fun turn hturn => (hproper turn hturn).2

/-- The order of routes is the order of their steps. -/
theorem rank_lt_of_precedes {r s : Route} (h : r.precedes s = true) (hne : r ≠ s) :
    r.map Turn.rank < s.map Turn.rank := by
  -- turn by turn: the first turns that differ decide, the way up before a name
  induction r generalizing s with
  | nil =>
      cases s with
      | nil => exact absurd rfl hne
      | cons turn s => exact List.nil_lt_cons _ _
  | cons turn r ih =>
      cases s with
      | nil => cases h
      | cons turn' s =>
          rw [List.map_cons, List.map_cons, List.cons_lt_cons_iff]
          cases turn with
          | up =>
              cases turn' with
              | up => exact Or.inr ⟨rfl, ih h fun heq => hne (by rw [heq])⟩
              | into b => exact Or.inl Option.none_lt_some
          | into a =>
              cases turn' with
              | up => cases h
              | into b =>
                  rcases Route.precedes_into.mp h with hab | ⟨rfl, hrest⟩
                  · exact Or.inl (Option.some_lt_some.mpr (compareOfLessAndEq_eq_lt.mp hab))
                  · exact Or.inr ⟨rfl, ih hrest fun heq => hne (by rw [heq])⟩

/-- **The order of routes is that of their texts.** -/
theorem before_of_precedes {t : Tree} (hw : t.WellNamed) {r s : Route} (hr : NamesIn t r)
    (hs : NamesIn t s) (hrne : r ≠ []) (hsne : s ≠ []) (h : r.precedes s = true ∧ r ≠ s) :
    Path.Before r.text s.text := by
  rw [Path.Before, rank_pieces_text hw hr hrne, rank_pieces_text hw hs hsne]
  exact rank_lt_of_precedes h.1 h.2

end Glob

namespace Extract

open Glob

/-! ## What patterns ask for

Each valid pattern finds some routes, and those of all patterns are put in order without
repetitions. So only the set of the patterns counts. -/

/-- The pattern leads from the root to a file at the path. -/
def Matches (t : Tree) (root : Place) (pattern path : String) : Prop :=
  ∃ parts r, Glob.ofText pattern = .ok parts ∧ r ∈ Glob.search t root parts
    ∧ (fileAt? t root r).isSome = true ∧ r.text = path

/-- The paths are those that the patterns ask for, each of them once and in order. -/
structure Covers (t : Tree) (root : Place) (patterns paths : List String) : Prop where
  inOrder : paths.Pairwise Path.Before
  distinct : paths.Nodup
  mem : ∀ path, path ∈ paths ↔ ∃ pattern ∈ patterns, Matches t root pattern path

/-- Valid patterns are compiled, each to its own parts. -/
theorem globs_of_valid (root : Place) {patterns : List String}
    (h : ∀ p ∈ patterns, ∃ parts, Glob.ofText p = .ok parts) :
    ∃ gs, globs root patterns = .ok gs ∧
      ∀ parts, parts ∈ gs ↔ ∃ p ∈ patterns, Glob.ofText p = .ok parts := by
  induction patterns with
  | nil => exact ⟨[], rfl, by simp⟩
  | cons p ps ih =>
      obtain ⟨first, hp⟩ := h p List.mem_cons_self
      obtain ⟨others, hps, hmem⟩ := ih fun q hq => h q (List.mem_cons_of_mem _ hq)
      refine ⟨first :: others, ?_, fun parts => ?_⟩
      · unfold globs at hps ⊢
        rw [List.mapM_cons, ofTextBehind_eq_ok_iff.mpr hp, hps]
        rfl
      · rw [List.mem_cons, hmem, List.exists_mem_cons_iff, hp, Except.ok.injEq, eq_comm]

section Discover

variable {t : Tree} {root : Place} {c : SourceConfig} {gs : List (List Part)}

/-- The paths of the sources are the texts of their routes. -/
theorem map_path_sourcesAt {routes : List Route}
    (h : ∀ r ∈ routes, (fileAt? t root r).isSome = true) :
    (sourcesAt t root routes).map (·.path) = routes.map Route.text := by
  induction routes with
  | nil => rfl
  | cons r routes ih =>
      obtain ⟨f, hf⟩ := Option.isSome_iff_exists.mp (h r List.mem_cons_self)
      have hrest := ih fun r' hr' => h r' (List.mem_cons_of_mem _ hr')
      unfold sourcesAt at hrest ⊢
      rw [List.filterMap_cons_some (by rw [hf]; rfl), List.map_cons, List.map_cons, hrest]

/-- **The files are found in the order of their paths**, each of them once. -/
theorem covers_sourcesAt (hw : t.WellNamed) (hroot : t.get? root = some .directory)
    (hgs : ∀ parts, parts ∈ gs ↔ ∃ p ∈ c.patterns, Glob.ofText p = .ok parts) :
    Covers t root c.patterns
      ((sourcesAt t root (distinctRoutes (fileRoutes t root gs))).map (·.path)) := by
  have hfound : ∀ r ∈ distinctRoutes (fileRoutes t root gs),
      (∃ parts ∈ gs, r ∈ Glob.search t root parts) ∧ (fileAt? t root r).isSome = true :=
    fun r hr => mem_fileRoutes.mp (mem_distinctRoutes.mp hr)
  have hnames : ∀ r ∈ distinctRoutes (fileRoutes t root gs), NamesIn t r := by
    intro r hr
    obtain ⟨parts, -, hsearch⟩ := (hfound r hr).1
    exact namesIn_of_mem_searchFrom t root parts [] (fun n hn => nomatch hn) hsearch
  -- the root itself is no file
  have hne : ∀ r ∈ distinctRoutes (fileRoutes t root gs), r ≠ [] := by
    rintro r hr rfl
    have hfile := (hfound [] hr).2
    rw [fileAt?, show Route.follow root [] = root from rfl, Tree.fileAt?_of_directory hroot] at hfile
    cases hfile
  rw [map_path_sourcesAt fun r hr => (hfound r hr).2]
  have hinOrder : ((distinctRoutes (fileRoutes t root gs)).map Route.text).Pairwise Path.Before := by
    rw [List.pairwise_map]
    refine (pairwise_distinctRoutes (fileRoutes t root gs)).imp_of_mem fun {r s} hr hs h => ?_
    exact before_of_precedes hw (hnames r hr) (hnames s hs) (hne r hr) (hne s hs) h
  refine ⟨hinOrder, ?_, fun path => ?_⟩
  · refine hinOrder.imp fun {a b} hbefore => ?_
    rintro rfl
    exact Path.not_before_self a hbefore
  · rw [List.mem_map]
    constructor
    · rintro ⟨r, hr, rfl⟩
      obtain ⟨⟨parts, hparts, hsearch⟩, hfile⟩ := hfound r hr
      obtain ⟨p, hp, hof⟩ := (hgs parts).mp hparts
      exact ⟨p, hp, parts, r, hof, hsearch, hfile, rfl⟩
    · rintro ⟨p, hp, parts, r, hof, hsearch, hfile, rfl⟩
      have hr := mem_fileRoutes.mpr ⟨⟨parts, (hgs parts).mpr ⟨p, hp, hof⟩, hsearch⟩, hfile⟩
      exact ⟨r, mem_distinctRoutes.mpr hr, rfl⟩

end Discover

/-- There is a summary for each source, under its path. -/
theorem map_path_files {ρ : Type} [Catalogued ρ] (seen : Seen)
    (results : List (String × FileResult ρ)) :
    (mergeFrom seen results).files.map (·.path) = results.map Prod.fst := by
  induction results generalizing seen with
  | nil => rfl
  | cons result rest ih => exact congrArg (result.1 :: ·) (ih _)

/-- **The patterns are a set.** Where two lists of valid patterns have the same members, either no file
matches and both fail for want of one, or both give the same records, diagnostics and summaries, those
of the files that match, in the order of their paths. -/
theorem extract_patternSet {ρ : Type} [Catalogued ρ] (ofFile : Outline → String → FileResult ρ)
    (t : Tree) (root : Place) (c c' : SourceConfig) (hw : t.WellNamed)
    (hroot : t.get? root = some .directory)
    (hvalid : ∀ p ∈ c.patterns, ∃ parts, Glob.ofText p = .ok parts)
    (hset : ∀ p, p ∈ c.patterns ↔ p ∈ c'.patterns)
    (hother : c' = { c with patterns := c'.patterns }) :
    ((c.requireMatches = true ∧ ∀ p ∈ c.patterns, ∀ path, ¬ Matches t root p path)
        ∧ extract ofFile t root c = .error (.noMatches c.patterns)
        ∧ extract ofFile t root c' = .error (.noMatches c'.patterns))
      ∨ ∃ e, extract ofFile t root c = .ok e ∧ extract ofFile t root c' = .ok e
        ∧ Covers t root c.patterns (e.files.map (·.path)) := by
  have hrequire : c'.requireMatches = c.requireMatches := by rw [hother]
  obtain ⟨gs, hglobs, hgs⟩ := globs_of_valid root hvalid
  obtain ⟨gs', hglobs', hgs'⟩ := globs_of_valid root fun p hp => hvalid p ((hset p).mpr hp)
  -- the same parts are searched for, so that the same routes are found
  have hsame : ∀ parts, parts ∈ gs ↔ parts ∈ gs' := by
    intro parts
    rw [hgs, hgs']
    exact exists_congr fun p => and_congr_left fun _ => hset p
  have hroutes : distinctRoutes (fileRoutes t root gs') = distinctRoutes (fileRoutes t root gs) := by
    refine distinctRoutes_eq fun r => ?_
    rw [mem_fileRoutes, mem_fileRoutes]
    exact and_congr_left fun _ => exists_congr fun parts => and_congr_left fun _ => (hsame parts).symm
  have hcovers := covers_sourcesAt hw hroot hgs
  rw [extract, extract, discover_eq hglobs, discover_eq hglobs', hroutes, hrequire]
  cases hnone : (distinctRoutes (fileRoutes t root gs)).isEmpty && c.requireMatches with
  | true =>
      obtain ⟨hempty, hneeded⟩ := Bool.and_eq_true_iff.mp hnone
      refine Or.inl ⟨⟨hneeded, fun p hp path hmatch => ?_⟩, rfl, rfl⟩
      have hmem := (hcovers.mem path).mpr ⟨p, hp, hmatch⟩
      rw [List.isEmpty_iff.mp hempty] at hmem
      cases hmem
  | false =>
      refine Or.inr ⟨_, rfl, rfl, ?_⟩
      rw [merge, map_path_files, List.map_map]
      exact hcovers

/-- Two files of which the texts of the paths are ordered in another way than the paths. -/
def dashTree : Tree where
  entries :=
    [(["p"], .directory),
     (["p", "a-b"], .directory),
     (["p", "a-b", "x.ts"], .file ⟨.text "", 0o644⟩),
     (["p", "a"], .directory),
     (["p", "a", "b.ts"], .file ⟨.text "", 0o644⟩)]

/-- The patterns are given in any way. -/
def dashConfig (patterns : List String) : SourceConfig := ⟨patterns, "m.ts", none, false, none⟩

/-- Patterns that overlap may be given in any order, and more than once. -/
theorem extract_patternSet_dash :
    dashTree.WellNamed ∧ dashTree.get? ["p"] = some .directory
      ∧ (∀ p ∈ ["a/*.ts", "*/*.ts"], ∃ parts, Glob.ofText p = .ok parts)
      ∧ (∀ p, p ∈ ["a/*.ts", "*/*.ts"] ↔ p ∈ ["*/*.ts", "a/*.ts", "*/*.ts"])
      ∧ ∃ e, extract Pattern.ofFile dashTree ["p"] (dashConfig ["a/*.ts", "*/*.ts"]) = .ok e
        ∧ extract Pattern.ofFile dashTree ["p"] (dashConfig ["*/*.ts", "a/*.ts", "*/*.ts"]) = .ok e
        ∧ Covers dashTree ["p"] ["a/*.ts", "*/*.ts"] (e.files.map (·.path)) := by
  have hw : dashTree.WellNamed := by decide
  have hvalid : ∀ p ∈ ["a/*.ts", "*/*.ts"], ∃ parts, Glob.ofText p = .ok parts := by
    intro p hp
    rcases List.mem_pair.mp hp with rfl | rfl
    · exact ⟨_, rfl⟩
    · exact ⟨_, rfl⟩
  have hset : ∀ p, p ∈ ["a/*.ts", "*/*.ts"] ↔ p ∈ ["*/*.ts", "a/*.ts", "*/*.ts"] := by
    intro p
    simp only [List.mem_cons, List.not_mem_nil, or_false]
    tauto
  refine ⟨hw, rfl, hvalid, hset, ?_⟩
  rcases extract_patternSet Pattern.ofFile dashTree ["p"] (dashConfig ["a/*.ts", "*/*.ts"])
    (dashConfig ["*/*.ts", "a/*.ts", "*/*.ts"]) hw rfl hvalid hset rfl with ⟨⟨hneeded, -⟩, -⟩ | hsame
  · cases hneeded
  · exact hsame

end Extract

end DocCatalog
