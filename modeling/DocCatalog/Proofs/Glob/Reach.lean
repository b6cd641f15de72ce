import DocCatalog.Extract.Merge
import DocCatalog.Proofs.Files.Ways
import DocCatalog.Proofs.Glob.Escaped
import DocCatalog.Proofs.Glob.Order
import Mathlib.Data.List.Basic

/-!
# What patterns reach

A pattern that never leads up finds the files below that it asks for by their names, whatever else is
in the tree.

* **`reaches`**: whether a pattern asks for what lies below by some names.
* **`Part.leadsUp`**: whether a part of a pattern can lead up.
* **`findsAll`**: what a search finds in a well-formed tree.
* **`mem_fileRoutes_iff`**: the files that patterns lead to.
* **`discover_eq`**: the sources are what is at the ends of the routes.
* **`extract_congr`**: what is extracted depends on these files only.
-/

namespace DocCatalog

namespace Glob

/-- Whether `p` holds of one of the names, with those behind it. -/
def anyBelow (p : String → List String → Bool) : List String → Bool
  | [] => false
  | n :: names => p n names || anyBelow p names

/-- Whether the parts of a pattern that never leads up ask for a file that lies below by the given
names. A part leads on from a directory, so that a name of the file is left for it. -/
def reaches : List Part → List String → Bool
  | [], names => names.isEmpty
  | _ :: _, [] => false
  | .here :: ps, names => reaches ps names
  | .name n :: ps, m :: names => n == m && reaches ps names
  | .wild ts :: ps, m :: names =>
    accepts ts m.toList && reaches ps names || acceptsDots ts ['.'] && reaches ps (m :: names)
  | .anyDepth :: p :: ps, names => anyBelow (fun m rest => p.acceptsName m && reaches ps rest) names
  | [.anyDepth], _ | .up :: _, _ => false

/-- Whether a part of a pattern can lead up. One with wildcards does when it asks for two dots. -/
def Part.leadsUp : Part → Bool
  | .up => true
  | .wild ts => acceptsDots ts ['.', '.']
  | .name _ | .here | .anyDepth => false

theorem anyBelow_iff {p : String → List String → Bool} {names : List String} :
    anyBelow p names = true ↔
      ∃ before n after, names = before ++ n :: after ∧ p n after = true := by
  induction names with
  | nil => simp [anyBelow]
  | cons m names ih =>
      rw [anyBelow, Bool.or_eq_true, ih]
      constructor
      · rintro (hm | ⟨before, n, after, rfl, hn⟩)
        · exact ⟨[], m, names, rfl, hm⟩
        · exact ⟨m :: before, n, after, rfl, hn⟩
      · rintro ⟨before, n, after, hnames, hn⟩
        cases before with
        | nil =>
            obtain ⟨rfl, rfl⟩ := List.cons.inj hnames
            exact Or.inl hn
        | cons b before =>
            obtain ⟨rfl, rfl⟩ := List.cons.inj hnames
            exact Or.inr ⟨before, n, after, rfl, hn⟩

/-- Steps down lead to what lies below by their names. -/
@[simp] theorem Route.follow_map_into (top : Place) (names : List String) :
    Route.follow top (names.map .into) = top ++ names := by
  induction names generalizing top with
  | nil => simp [Route.follow]
  | cons n ns ih =>
      have hstep : Route.follow top ((n :: ns).map .into) = Route.follow (top ++ [n]) (ns.map .into) :=
        rfl
      rw [hstep, ih, List.append_assoc, List.singleton_append]

end Glob

namespace Tree

/-! ## What lies in a directory, and below

The entries of a tree are places with what is there, so that a part of a place is enough to look
below it. -/

theorem mem_children {t : Tree} {p : Place} {n : String} {e : Entry} :
    (n, e) ∈ t.children p ↔ (p ++ [n], e) ∈ t.entries := by
  unfold children
  rw [List.mem_filterMap]
  constructor
  · rintro ⟨⟨q, e'⟩, hmem, hq⟩
    -- the root of the tree is nobody's child
    rcases List.eq_nil_or_concat q with rfl | ⟨before, m, rfl⟩
    · cases hq
    · rw [List.concat_eq_append] at hmem hq
      simp only [List.getLast?_concat, List.dropLast_concat] at hq
      split at hq
      · next hp =>
          cases hq
          rw [eq_of_beq hp] at hmem
          exact hmem
      · cases hq
  · intro hmem
    refine ⟨(p ++ [n], e), hmem, ?_⟩
    simp

theorem mem_descendants {t : Tree} {p way : Place} {e : Entry} :
    (way, e) ∈ t.descendants p ↔ way ≠ [] ∧ (p ++ way, e) ∈ t.entries := by
  unfold descendants
  rw [List.mem_filterMap]
  constructor
  -- what is below begins as the place does and is longer
  · rintro ⟨⟨q, e'⟩, hmem, hq⟩
    simp only [Bool.and_eq_true, decide_eq_true_eq] at hq
    split at hq
    · next hbegins =>
        obtain ⟨rest, rfl⟩ := List.isPrefixOf_iff_prefix.mp hbegins.1
        cases hq
        rw [List.drop_left]
        refine ⟨?_, hmem⟩
        rintro rfl
        simp at hbegins
    · cases hq
  · rintro ⟨hne, hmem⟩
    refine ⟨(p ++ way, e), hmem, ?_⟩
    have hbegins : p.isPrefixOf (p ++ way) = true :=
      List.isPrefixOf_iff_prefix.mpr (List.prefix_append p way)
    have hlength : p.length < (p ++ way).length := by
      rw [List.length_append]
      have := List.length_pos_iff.mpr hne
      omega
    simp only [hbegins, hlength, decide_true, Bool.and_self, if_true, List.drop_left]

end Tree

namespace Glob

open DocCatalog.Tree

/-! ## Searching

A search goes from part to part of a pattern, and each part takes some steps down. What is found is
shown to be all that the pattern asks for, by one lemma for each kind of part. -/

section Search

variable {t : Tree} {top : Place} {base names : List String}

/-- What lies on the way to a file is there. -/
theorem get?_ne_none_of_file (hw : t.WellFormed) (names : List String)
    (hfile : (t.fileAt? (top ++ base ++ names)).isSome = true) : t.get? (top ++ base) ≠ none := by
  obtain ⟨f, hf⟩ := Option.isSome_iff_exists.mp hfile
  rw [fileAt?_eq_some] at hf
  cases names with
  | nil =>
      rw [List.append_nil] at hf
      rw [hf]
      exact Option.some_ne_none _
  | cons n ns =>
      rw [hw.above (List.cons_ne_nil n ns) (by rw [hf]; exact Option.some_ne_none _)]
      exact Option.some_ne_none _

/-- What lies above a file is a directory. -/
theorem directory_of_file (hw : t.WellFormed) {n : String}
    (hfile : (t.fileAt? (top ++ base ++ n :: names)).isSome = true) :
    t.get? (top ++ base) = some .directory := by
  obtain ⟨f, hf⟩ := Option.isSome_iff_exists.mp hfile
  rw [fileAt?_eq_some] at hf
  exact hw.above (List.cons_ne_nil n names) (by rw [hf]; exact Option.some_ne_none _)

/-! One equation for each kind of part. -/

variable {rest : List Part} {r : Route}

/-- Behind the last part the way is complete. -/
theorem searchFrom_nil : searchFrom t top [] r = [r] := rfl

/-- A dot stays where it is. -/
theorem searchFrom_here :
    searchFrom t top (.here :: rest) r
      = if t.get? (r.follow top) != some .directory then [] else searchFrom t top rest r := rfl

/-- A plain name is stepped into if it is there. -/
theorem searchFrom_name {n : String} :
    searchFrom t top (.name n :: rest) r
      = if t.get? (r.follow top) != some .directory then []
        else if (t.get? (r.follow top ++ [n])).isSome then searchFrom t top rest (r ++ [.into n])
        else [] := rfl

/-- Of the names in the directory those that are accepted are stepped into. A pattern may also
accept the dots. -/
theorem searchFrom_wild {ts : List Token} :
    searchFrom t top (.wild ts :: rest) r
      = if t.get? (r.follow top) != some .directory then []
        else
          ((t.children (r.follow top)).filter fun (n, _) => accepts ts n.toList).flatMap
              (fun (n, _) => searchFrom t top rest (r ++ [.into n]))
            ++ (if acceptsDots ts ['.'] then searchFrom t top rest r else [])
            ++ (if acceptsDots ts ['.', '.'] then searchFrom t top rest (r ++ [.up]) else []) := rfl

/-- In the end any directory below is found. -/
theorem searchFrom_lastDepth :
    searchFrom t top [.anyDepth] r
      = if t.get? (r.follow top) != some .directory then []
        else ((t.descendants (r.follow top)).filter fun (_, e) => e == .directory).map
          fun (way, _) => r ++ way.map .into := rfl

/-- Otherwise the way goes on from every depth at which the next part accepts the name. -/
theorem searchFrom_anyDepth {part : Part} :
    searchFrom t top (.anyDepth :: part :: rest) r
      = if t.get? (r.follow top) != some .directory then []
        else
          ((t.descendants (r.follow top)).filter fun (way, _) =>
              part.acceptsName (way.getLast?.getD "")).flatMap
            fun (way, _) => searchFrom t top rest (r ++ way.map .into) := rfl

theorem mem_guard {p : Place} {routes : List Route} :
    r ∈ (if t.get? p != some .directory then [] else routes) ↔
      t.get? p = some .directory ∧ r ∈ routes := by
  by_cases hp : t.get? p = some .directory
  · simp [hp]
  · simp [hp]

/-- A pattern that does not accept two dots goes on below or stays. -/
theorem mem_searchFrom_wild {ts : List Token} (hup : acceptsDots ts ['.', '.'] = false) :
    r ∈ searchFrom t top (.wild ts :: rest) (base.map .into) ↔
      t.get? (top ++ base) = some .directory
        ∧ ((∃ n, accepts ts n.toList = true ∧ t.get? (top ++ base ++ [n]) ≠ none
              ∧ r ∈ searchFrom t top rest ((base ++ [n]).map .into))
          ∨ acceptsDots ts ['.'] = true ∧ r ∈ searchFrom t top rest (base.map .into)) := by
  rw [searchFrom_wild, mem_guard, Route.follow_map_into, hup, if_neg Bool.false_ne_true,
    List.append_nil, List.mem_append]
  refine and_congr_right fun _ => or_congr ?_ ?_
  · rw [List.mem_flatMap]
    -- the entry that is stepped into, and its way there, for the name and back
    constructor
    · rintro ⟨⟨n, e⟩, hmem, hr⟩
      obtain ⟨hchild, haccepts⟩ := List.mem_filter.mp hmem
      refine ⟨n, haccepts, (get?_ne_none (by simp)).mpr ⟨_, mem_children.mp hchild, rfl⟩, ?_⟩
      rwa [List.map_append, List.map_singleton]
    · rintro ⟨n, haccepts, hthere, hr⟩
      obtain ⟨⟨q, e⟩, hmem, rfl⟩ := (get?_ne_none (by simp)).mp hthere
      refine ⟨(n, e), List.mem_filter.mpr ⟨mem_children.mpr hmem, haccepts⟩, ?_⟩
      rwa [List.map_append, List.map_singleton] at hr
  · split
    · next hdot => simp [hdot]
    · next hdot => simp [hdot]

/-- What follows is looked for below names at any depth. -/
theorem mem_searchFrom_anyDepth {part : Part} :
    r ∈ searchFrom t top (.anyDepth :: part :: rest) (base.map .into) ↔
      t.get? (top ++ base) = some .directory
        ∧ ∃ before n, part.acceptsName n = true ∧ t.get? (top ++ base ++ (before ++ [n])) ≠ none
            ∧ r ∈ searchFrom t top rest ((base ++ (before ++ [n])).map .into) := by
  rw [searchFrom_anyDepth, mem_guard, Route.follow_map_into, List.mem_flatMap]
  refine and_congr_right fun _ => ?_
  constructor
  · rintro ⟨⟨way, e⟩, hmem, hr⟩
    obtain ⟨hbelow, haccepts⟩ := List.mem_filter.mp hmem
    obtain ⟨hne, hthere⟩ := mem_descendants.mp hbelow
    obtain ⟨before, n, rfl⟩ := List.eq_nil_or_concat way |>.resolve_left hne
    rw [List.concat_eq_append] at hthere hr haccepts
    refine ⟨before, n, ?_, (get?_ne_none (by simp)).mpr ⟨_, hthere, rfl⟩, ?_⟩
    · simpa using haccepts
    · rwa [List.map_append]
  · rintro ⟨before, n, haccepts, hthere, hr⟩
    obtain ⟨⟨q, e⟩, hmem, rfl⟩ := (get?_ne_none (by simp)).mp hthere
    refine ⟨(before ++ [n], e), List.mem_filter.mpr ⟨mem_descendants.mpr ⟨by simp, hmem⟩, ?_⟩, ?_⟩
    · simpa using haccepts
    · rwa [List.map_append] at hr

/-- Whether the route is that of a file below the place that `base` leads to, and the parts ask for
it from there on. -/
def Finds (t : Tree) (top : Place) (base : List String) (parts : List Part) (r : Route) : Prop :=
  ∃ names, r = (base ++ names).map .into ∧ reaches parts names = true
    ∧ (t.fileAt? (top ++ base ++ names)).isSome = true

/-- A part of the way can be gone before. -/
theorem finds_append {way : List String} {parts : List Part} :
    Finds t top (base ++ way) parts r ↔
      ∃ names, r = (base ++ (way ++ names)).map .into ∧ reaches parts names = true
        ∧ (t.fileAt? (top ++ base ++ (way ++ names))).isSome = true := by
  simp only [Finds, List.append_assoc]

/-- The search for the parts finds, behind every place, the files that they ask for. -/
def FindsAll (t : Tree) (top : Place) (parts : List Part) : Prop :=
  ∀ (base : List String) (r : Route),
    r ∈ searchFrom t top parts (base.map .into) ∧ (t.fileAt? (r.follow top)).isSome = true ↔
      Finds t top base parts r

/-- No more part: what is found is the file itself. -/
theorem findsAll_nil : FindsAll t top [] := by
  intro base r
  rw [searchFrom_nil, List.mem_singleton]
  constructor
  · rintro ⟨rfl, hfile⟩
    rw [Route.follow_map_into] at hfile
    exact ⟨[], by simp, rfl, by simpa using hfile⟩
  · rintro ⟨names, rfl, hnames, hfile⟩
    rw [reaches, List.isEmpty_iff] at hnames
    subst hnames
    rw [Route.follow_map_into, ← List.append_assoc]
    exact ⟨by simp, hfile⟩

/-- A dot asks for nothing. -/
theorem findsAll_here (hw : t.WellFormed) (ih : FindsAll t top rest) :
    FindsAll t top (.here :: rest) := by
  intro base r
  rw [searchFrom_here, mem_guard, Route.follow_map_into, and_assoc, ih base r]
  constructor
  · rintro ⟨hdir, names, rfl, hnames, hfile⟩
    refine ⟨names, rfl, ?_, hfile⟩
    cases names with
    | nil =>
        -- a directory is no file
        rw [List.append_nil, fileAt?_of_directory hdir] at hfile
        cases hfile
    | cons n names => exact hnames
  · rintro ⟨names, rfl, hnames, hfile⟩
    cases names with
    | nil => cases hnames
    | cons n names => exact ⟨directory_of_file hw hfile, _, rfl, hnames, hfile⟩

/-- A name asks for what lies below it. -/
theorem findsAll_name (hw : t.WellFormed) {n : String} (ih : FindsAll t top rest) :
    FindsAll t top (.name n :: rest) := by
  intro base r
  have hbehind := ih (base ++ [n]) r
  have happend : base.map Turn.into ++ [.into n] = (base ++ [n]).map .into := by simp
  rw [finds_append] at hbehind
  rw [searchFrom_name, mem_guard, Route.follow_map_into, happend]
  constructor
  · rintro ⟨⟨-, hr⟩, hfile⟩
    split at hr
    · obtain ⟨names, hroute, hnames, hfile'⟩ := hbehind.mp ⟨hr, hfile⟩
      exact ⟨n :: names, hroute, by simp [reaches, hnames], hfile'⟩
    · cases hr
  · rintro ⟨names, hroute, hnames, hfile⟩
    cases names with
    | nil => cases hnames
    | cons m names =>
        rw [reaches, Bool.and_eq_true, beq_iff_eq] at hnames
        obtain ⟨rfl, hnames⟩ := hnames
        obtain ⟨hr, hisSome⟩ := hbehind.mpr ⟨names, hroute, hnames, hfile⟩
        -- the search looks at every name on the way, and there is a file at its end
        have hthere : t.get? (top ++ base ++ [n]) ≠ none :=
          get?_ne_none_of_file hw names (by simpa using hfile)
        rw [if_pos (Option.isSome_iff_ne_none.mpr hthere)]
        exact ⟨⟨directory_of_file hw hfile, hr⟩, hisSome⟩

/-- A wildcard takes one name, or none when it accepts the directory itself. -/
theorem findsAll_wild (hw : t.WellFormed) {ts : List Token}
    (hup : acceptsDots ts ['.', '.'] = false) (ih : FindsAll t top rest) :
    FindsAll t top (.wild ts :: rest) := by
  intro base r
  rw [mem_searchFrom_wild hup]
  constructor
  · rintro ⟨⟨hdir, ⟨n, haccepts, -, hr⟩ | ⟨hdot, hr⟩⟩, hfile⟩
    · -- the part accepts the next name, or stands for the directory itself
      obtain ⟨names, hroute, hnames, hfile'⟩ := finds_append.mp ((ih _ r).mp ⟨hr, hfile⟩)
      exact ⟨n :: names, hroute, by simp [reaches, haccepts, hnames], hfile'⟩
    · obtain ⟨names, hroute, hnames, hfile'⟩ := (ih base r).mp ⟨hr, hfile⟩
      refine ⟨names, hroute, ?_, hfile'⟩
      -- a directory is not found as a file, so that a name is left
      cases names with
      | nil =>
          rw [List.append_nil, fileAt?_of_directory hdir] at hfile'
          cases hfile'
      | cons n names => simp [reaches, hdot, hnames]
  · rintro ⟨names, hroute, hnames, hfile⟩
    cases names with
    | nil => cases hnames
    | cons n names =>
        have hdir := directory_of_file hw hfile
        rw [reaches, Bool.or_eq_true, Bool.and_eq_true, Bool.and_eq_true] at hnames
        -- the same two ways to go on
        rcases hnames with ⟨haccepts, hnames⟩ | ⟨hdot, hnames⟩
        · obtain ⟨hr, hisSome⟩ :=
            (ih (base ++ [n]) r).mpr (finds_append.mpr ⟨names, hroute, hnames, hfile⟩)
          have hthere : t.get? (top ++ base ++ [n]) ≠ none :=
            get?_ne_none_of_file hw names (by simpa using hfile)
          exact ⟨⟨hdir, Or.inl ⟨n, haccepts, hthere, hr⟩⟩, hisSome⟩
        · obtain ⟨hr, hisSome⟩ := (ih base r).mpr ⟨n :: names, hroute, hnames, hfile⟩
          exact ⟨⟨hdir, Or.inr ⟨hdot, hr⟩⟩, hisSome⟩

/-- At any depth only directories are found, so that no file is asked for. -/
theorem findsAll_lastDepth (hw : t.WellFormed) : FindsAll t top [.anyDepth] := by
  intro base r
  constructor
  · rintro ⟨hr, hfile⟩
    rw [searchFrom_lastDepth, mem_guard, Route.follow_map_into] at hr
    obtain ⟨-, hmem⟩ := hr
    obtain ⟨⟨way, e⟩, hway, hroute⟩ := List.mem_map.mp hmem
    have hr : r = (base ++ way).map .into := by
      rw [← hroute, List.map_append]
    obtain ⟨hbelow, hdir⟩ := List.mem_filter.mp hway
    -- only directories are found, as a tree has nothing else at their places
    obtain ⟨hne, hentry⟩ := mem_descendants.mp hbelow
    rw [eq_of_beq hdir] at hentry
    rw [hr, Route.follow_map_into, ← List.append_assoc,
      fileAt?_of_directory (hw.get?_of_mem (by simp [hne]) hentry)] at hfile
    cases hfile
  · rintro ⟨names, -, hnames, -⟩
    cases names with
    | nil => cases hnames
    | cons n names => cases hnames

/-- Any depth takes the names up to one that the next part accepts, and that part is done, too. -/
theorem findsAll_anyDepth (hw : t.WellFormed) {part : Part} (ih : FindsAll t top rest) :
    FindsAll t top (.anyDepth :: part :: rest) := by
  intro base r
  rw [mem_searchFrom_anyDepth]
  constructor
  · rintro ⟨⟨hdir, before, n, haccepts, -, hr⟩, hfile⟩
    -- the part that follows has accepted a name somewhere below
    obtain ⟨names, hroute, hnames, hfile'⟩ := finds_append.mp ((ih _ r).mp ⟨hr, hfile⟩)
    refine ⟨before ++ [n] ++ names, hroute, ?_, hfile'⟩
    have hbelow : anyBelow (fun m rest' => part.acceptsName m && reaches rest rest')
        (before ++ n :: names) = true :=
      anyBelow_iff.mpr ⟨before, n, names, rfl, by simp [haccepts, hnames]⟩
    rw [List.append_assoc, List.singleton_append]
    cases before with
    | nil => exact hbelow
    | cons b before => exact hbelow
  · rintro ⟨names, hroute, hnames, hfile⟩
    cases names with
    | nil => cases hnames
    | cons m names =>
        -- the names are split where the part that follows accepts one
        obtain ⟨before, n, after, hsplit, hn⟩ := anyBelow_iff.mp hnames
        obtain ⟨haccepts, hafter⟩ := Bool.and_eq_true_iff.mp hn
        have hdir := directory_of_file hw hfile
        rw [hsplit, show before ++ n :: after = before ++ [n] ++ after by simp] at hroute hfile
        obtain ⟨hr, hisSome⟩ := (ih (base ++ (before ++ [n])) r).mpr
          (finds_append.mpr ⟨after, hroute, hafter, hfile⟩)
        refine ⟨⟨hdir, before, n, haccepts, ?_, hr⟩, hisSome⟩
        rw [List.append_assoc]
        exact get?_ne_none_of_file hw after (by simpa using hfile)

/-- **What a search finds** behind a place are the files below that the pattern asks for. -/
theorem findsAll (hw : t.WellFormed) (top : Place) :
    ∀ parts : List Part, (∀ part ∈ parts, part.leadsUp = false) → FindsAll t top parts
  | [], _ => findsAll_nil
  | .here :: rest, hdown =>
      findsAll_here hw (findsAll hw top rest fun part hpart =>
        hdown part (List.mem_cons_of_mem _ hpart))
  | .up :: rest, hdown => by
      -- no part leads up
      have hup := hdown .up List.mem_cons_self
      cases hup
  | .name n :: rest, hdown =>
      findsAll_name hw (findsAll hw top rest fun part hpart =>
        hdown part (List.mem_cons_of_mem _ hpart))
  | .wild ts :: rest, hdown =>
      findsAll_wild hw (hdown (.wild ts) List.mem_cons_self)
        (findsAll hw top rest fun part hpart => hdown part (List.mem_cons_of_mem _ hpart))
  | [.anyDepth], _ => findsAll_lastDepth hw
  | .anyDepth :: part :: rest, hdown =>
      findsAll_anyDepth hw (findsAll hw top rest fun part hpart =>
        hdown part (List.mem_cons_of_mem _ (List.mem_cons_of_mem _ hpart)))

end Search

end Glob

/-! ## Finding files

The patterns of a kind together reach some names. What is discovered are the files there, in the
order of their routes. -/

namespace SourceConfig

/-- No pattern can lead up. -/
def StaysBelow (c : SourceConfig) : Prop :=
  ∀ p ∈ c.patterns, ∀ parts, Glob.ofText p = .ok parts → ∀ part ∈ parts, part.leadsUp = false

/-- A pattern asks for what lies below by the names. -/
def Reaches (c : SourceConfig) (names : List String) : Prop :=
  ∃ p ∈ c.patterns, ∃ parts, Glob.ofText p = .ok parts ∧ Glob.reaches parts names = true

/-- Whether names are reached can be computed. -/
theorem reaches_iff {c : SourceConfig} {names : List String} :
    c.Reaches names ↔
      (c.patterns.any fun p =>
        match Glob.ofText p with
        | .ok parts => Glob.reaches parts names
        | .error _ => false) = true := by
  rw [List.any_eq_true]
  refine exists_congr fun p => and_congr_right fun _ => ?_
  cases Glob.ofText p with
  | ok parts => simp
  | error e => simp

instance (c : SourceConfig) (names : List String) : Decidable (c.Reaches names) :=
  decidable_of_iff' _ reaches_iff

/-- Whether patterns stay below can be computed too. -/
theorem staysBelow_iff {c : SourceConfig} :
    c.StaysBelow ↔
      (c.patterns.all fun p =>
        match Glob.ofText p with
        | .ok parts => parts.all fun part => !part.leadsUp
        | .error _ => true) = true := by
  rw [List.all_eq_true]
  refine forall_congr' fun p => imp_congr_right fun _ => ?_
  cases Glob.ofText p with
  | ok parts => simp
  | error e => simp

instance (c : SourceConfig) : Decidable c.StaysBelow := decidable_of_iff' _ staysBelow_iff

end SourceConfig

namespace Extract

open Glob DocCatalog.Tree

/-- Patterns that can be taken apart are taken apart one by one. -/
theorem mem_globs {root : Place} {patterns : List String} {gs : List (List Part)}
    (h : globs root patterns = .ok gs) {parts : List Part} (hparts : parts ∈ gs) :
    ∃ p ∈ patterns, Glob.ofText p = .ok parts := by
  unfold globs at h
  induction patterns generalizing gs with
  | nil =>
      cases h
      cases hparts
  | cons p ps ih =>
      rw [List.mapM_cons] at h
      -- the first pattern is compiled, and then the others
      cases hp : Glob.ofTextBehind (patternBase root) p with
      | error e =>
          rw [hp] at h
          cases h
      | ok first =>
          cases hps : ps.mapM fun p =>
              (Glob.ofTextBehind (patternBase root) p).mapError (DiscoverError.invalidPattern p) with
          | error e =>
              rw [hp, hps] at h
              cases h
          | ok others =>
              rw [hp, hps] at h
              cases h
              rcases List.mem_cons.mp hparts with rfl | hothers
              · exact ⟨p, List.mem_cons_self, ofTextBehind_eq_ok_iff.mp hp⟩
              · obtain ⟨q, hq, hof⟩ := ih hps hothers
                exact ⟨q, List.mem_cons_of_mem _ hq, hof⟩

/-- A route is kept when there is a file at its end. -/
theorem mem_fileRoutes {t : Tree} {top : Place} {gs : List (List Part)} {r : Route} :
    r ∈ fileRoutes t top gs ↔
      (∃ parts ∈ gs, r ∈ Glob.search t top parts) ∧ (fileAt? t top r).isSome = true := by
  rw [fileRoutes, List.mem_filter, List.mem_flatMap]

/-- **The files that patterns lead to** are those below that a pattern asks for. -/
theorem mem_fileRoutes_iff {t : Tree} (hw : t.WellFormed) (top : Place) {gs : List (List Part)}
    (hdown : ∀ parts ∈ gs, ∀ part ∈ parts, part.leadsUp = false) (r : Route) :
    r ∈ fileRoutes t top gs ↔
      ∃ names, r = names.map .into ∧ (∃ parts ∈ gs, reaches parts names = true)
        ∧ (t.fileAt? (top ++ names)).isSome = true := by
  rw [mem_fileRoutes]
  constructor
  · rintro ⟨⟨parts, hparts, hr⟩, hfile⟩
    obtain ⟨names, hroute, hnames, hfile'⟩ :=
      (findsAll hw top parts (hdown parts hparts) [] r).mp ⟨hr, hfile⟩
    rw [List.append_nil] at hfile'
    exact ⟨names, hroute, ⟨parts, hparts, hnames⟩, hfile'⟩
  · rintro ⟨names, hroute, ⟨parts, hparts, hnames⟩, hfile⟩
    have hfinds : Finds t top [] parts r :=
      ⟨names, hroute, hnames, by rw [List.append_nil]; exact hfile⟩
    obtain ⟨hr, hfile'⟩ := (findsAll hw top parts (hdown parts hparts) [] r).mpr hfinds
    exact ⟨⟨parts, hparts, hr⟩, hfile'⟩

variable {t t' : Tree} {top : Place} {c : SourceConfig} {gs : List (List Part)}

/-- The files at the end of routes, in the order of these. -/
def sourcesAt (t : Tree) (top : Place) (routes : List Route) : List SourceFile :=
  routes.filterMap fun r => (fileAt? t top r).map fun f => ⟨r.text, f.content⟩

/-- **The sources** are what is at the ends of the routes, unless there have to be some and there
are none. -/
theorem discover_eq (hglobs : globs top c.patterns = .ok gs) :
    discover t top c
      = if (distinctRoutes (fileRoutes t top gs)).isEmpty && c.requireMatches then
          .error (.noMatches c.patterns)
        else .ok (sourcesAt t top (distinctRoutes (fileRoutes t top gs))) := by
  unfold discover
  rw [hglobs]
  simp only [bind, Except.bind]
  split <;> rfl

/-- **Two trees in which patterns ask for the same files** have the same sources. -/
theorem discover_congr (hw : t.WellFormed) (hw' : t'.WellFormed) (hbelow : c.StaysBelow)
    (hsame : ∀ names, c.Reaches names → t'.fileAt? (top ++ names) = t.fileAt? (top ++ names)) :
    discover t' top c = discover t top c := by
  cases hglobs : globs top c.patterns with
  | error e =>
      unfold discover
      rw [hglobs]
      rfl
  | ok gs =>
      have hdown : ∀ parts ∈ gs, ∀ part ∈ parts, part.leadsUp = false := by
        intro parts hparts
        obtain ⟨p, hp, hof⟩ := mem_globs hglobs hparts
        exact hbelow p hp parts hof
      have hreach : ∀ {names}, (∃ parts ∈ gs, reaches parts names = true) → c.Reaches names := by
        rintro names ⟨parts, hparts, hnames⟩
        obtain ⟨p, hp, hof⟩ := mem_globs hglobs hparts
        exact ⟨p, hp, parts, hof, hnames⟩
      -- the two trees have the same files at the ends of the same routes
      have hroutes : distinctRoutes (fileRoutes t' top gs) = distinctRoutes (fileRoutes t top gs) := by
        refine distinctRoutes_eq fun r => ?_
        rw [mem_fileRoutes_iff hw' top hdown, mem_fileRoutes_iff hw top hdown]
        refine exists_congr fun names => and_congr_right fun _ => and_congr_right fun hparts => ?_
        rw [hsame names (hreach hparts)]
      have hsources : sourcesAt t' top (distinctRoutes (fileRoutes t top gs))
          = sourcesAt t top (distinctRoutes (fileRoutes t top gs)) := by
        refine List.filterMap_congr fun r hr => ?_
        rw [mem_distinctRoutes, mem_fileRoutes_iff hw top hdown] at hr
        obtain ⟨names, rfl, hparts, -⟩ := hr
        rw [fileAt?, fileAt?, Route.follow_map_into, hsame names (hreach hparts)]
      rw [discover_eq hglobs, discover_eq hglobs, hroutes, hsources]

/-- Sources are found where a pattern leads to a file. -/
theorem discover_isOk_of_mem {r : Route} (hglobs : globs top c.patterns = .ok gs)
    (hr : r ∈ fileRoutes t top gs) : ∃ sources, discover t top c = .ok sources := by
  have hne : (distinctRoutes (fileRoutes t top gs)).isEmpty = false := by
    rw [List.isEmpty_eq_false_iff]
    exact List.ne_nil_of_mem (mem_distinctRoutes.mpr hr)
  rw [discover_eq hglobs, hne]
  exact ⟨_, rfl⟩

/-- **What is extracted** is the same in two trees that have the same files where the patterns
reach. -/
theorem extract_congr {ρ : Type} [Catalogued ρ] (ofFile : Outline → String → FileResult ρ)
    (hw : t.WellFormed) (hw' : t'.WellFormed) (hbelow : c.StaysBelow)
    (hsame : ∀ names, c.Reaches names → t'.fileAt? (top ++ names) = t.fileAt? (top ++ names)) :
    extract ofFile t' top c = extract ofFile t top c := by
  rw [extract, extract, discover_congr hw hw' hbelow hsame]

end Extract

end DocCatalog
