import DocCatalog.Proofs.Files.Again
import DocCatalog.Proofs.Glob.Reach
import DocCatalog.Proofs.Sync.Accounting
import DocCatalog.Proofs.Sync.Separation

/-!
# Running again

When the modules are not among the sources, a run leaves a tree in which another run finds all that
the first one found, and nothing to change.

* **`Unsearched`**: no pattern leads to a module.
* **`stepOf_rerun`**: what is to be done about a kind is the same again.
* **`Plan.run_again`**: doing it again changes nothing.
* **`rerun_settled`**: the second run.
-/

namespace DocCatalog

/-- A file that is written as it was. -/
def FileOutcome.settled (f : FileOutcome) : FileOutcome := { f with preview := .unchanged }

/-- A report with all files as they were. -/
def Report.settled (r : Report) : Report := { r with files := r.files.map FileOutcome.settled }

namespace Sync

/-- No pattern leads up, and none asks for a module. -/
structure Unsearched (root : String) (c : Config) : Prop where
  below : ∀ k, (c.source k).StaysBelow
  elsewhere : ∀ j k names, (c.source j).Reaches names →
    Path.placeOf root ++ names ≠ outputPlace root c k

/-- There is only one way to the place of a module, so that it is enough to look at that. -/
theorem elsewhere_of_drop {root : String} {c : Config}
    (h : ∀ j k, ¬ (c.source j).Reaches
      ((outputPlace root c k).drop (Path.placeOf root).length))
    (j k : RecordKind) (names : List String) (hnames : (c.source j).Reaches names) :
    Path.placeOf root ++ names ≠ outputPlace root c k := by
  intro hplace
  have hdrop := congrArg (List.drop (Path.placeOf root).length) hplace
  rw [List.drop_left] at hdrop
  rw [hdrop] at hnames
  exact h j k hnames

/-! ## What is found again

The second run looks at the tree that the first one has left. Only modules are new in it, and no
pattern leads to one, so the same is extracted from the same places. -/

section Again

variable {t t' : Tree} {root : String} {c : Config}

/-- Files that are put into a tree leave it a project. -/
theorem IsProject.of_extends {written : Place → Prop} (h : IsProject t root)
    (hext : t.Extends written t') : IsProject t' root :=
  ⟨hext.wellFormed h.wellFormed, hext.isDirectory h.root⟩

/-- Nothing that is written gets in the way of a module. -/
theorem Separate.of_extends (h : Separate t root c)
    (hext : t.Extends (fun p => ∃ k, p = outputPlace root c k) t') : Separate t' root c := by
  refine ⟨h.apart, h.straight, fun path hpath => ?_⟩
  obtain ⟨⟨text, htext⟩, hplace⟩ := h.reference path hpath
  exact ⟨⟨text, hext.readText htext fun ⟨k, hk⟩ => hplace k hk⟩, hplace⟩

/-- In a project the root is where its path says. -/
theorem top_eq (h : IsProject t root) : top t root = Path.placeOf root := by
  obtain ⟨p, hlocate, -⟩ := Tree.isDirectory_iff.mp h.root
  have hplace : p = Path.placeOf root := by
    rw [Tree.walk_eq_follow hlocate, Path.steps, Path.follow_append, Path.placeOf]
    split
    · rfl
    · rfl
  rw [top, hlocate, ← hplace]
  rfl

/-- What is extracted is extracted again when only modules have been written. -/
theorem extract_again {ρ : Type} [Catalogued ρ] (ofFile : Outline → String → Extract.FileResult ρ)
    (hproject : IsProject t root) (hunsearched : Unsearched root c)
    (hext : t.Extends (fun p => ∃ k, p = outputPlace root c k) t') (j : RecordKind) :
    Extract.extract ofFile t' (top t' root) (c.source j)
      = Extract.extract ofFile t (top t root) (c.source j) := by
  have hproject' := hproject.of_extends hext
  rw [top_eq hproject, top_eq hproject']
  refine Extract.extract_congr ofFile hproject.wellFormed hproject'.wellFormed
    (hunsearched.below j) fun names hnames => hext.fileAt ?_
  rintro ⟨k, hk⟩
  exact hunsearched.elsewhere j k names hnames hk

/-- **What is to be done about a kind is the same again.** -/
theorem stepOf_rerun (hproject : IsProject t root) (hsep : Separate t root c)
    (hunsearched : Unsearched root c)
    (hext : t.Extends (fun p => ∃ k, p = outputPlace root c k) t') (o : Options) :
    stepOf t' root c o = stepOf t root c o
      ∧ packageCount (referenceOf t' root c o) (extractCommands t' root c)
        = packageCount (referenceOf t root c o) (extractCommands t root c) := by
  -- a plan depends on what is extracted and on the quick reference
  have hreference : referenceOf t' root c o = referenceOf t root c o := by
    rw [referenceOf_eq hsep, referenceOf_eq (hsep.of_extends hext), readReference_extends hsep hext]
  have hcomponents : extractComponents t' root c = extractComponents t root c :=
    extract_again _ hproject hunsearched hext .component
  have hcommands : extractCommands t' root c = extractCommands t root c :=
    extract_again _ hproject hunsearched hext .command
  have hpatterns : extractPatterns t' root c = extractPatterns t root c :=
    extract_again _ hproject hunsearched hext .pattern
  refine ⟨?_, by rw [hreference, hcommands]⟩
  funext k
  rw [stepOf, stepOf, hreference]
  cases k with
  | component => rw [planFor, planFor, hcomponents]
  | command => rw [planFor, planFor, hcommands]
  | pattern => rw [planFor, planFor, hpatterns]

end Again

/-! ## What is done again

What is written again is what is there, and a module that was left or has failed is so again. -/

/-- The same ending, with nothing that has changed. -/
def Ending.settled : Ending → Ending
  | .generated f => .generated f.settled
  | .untouched message => .untouched message
  | .failed e => .failed e

/-- Only dry runs show what would change. -/
theorem difference_of_write {o : Options} (h : o.dryRun = false) (path : String)
    (old : Option String) (new : String) : Kind.difference o path old new = none := by
  cases old with
  | none => rfl
  | some old => simp [Kind.difference, h]

/-- **Doing it again changes nothing**, whatever else has been written in between. -/
theorem Plan.run_again {kind : RecordKind} {o : Options} {d : Destination} {p : Plan} {a s : Tree}
    {top : Place} {names : List String} {written : Place → Prop} (hwrite : o.dryRun = false)
    (hw : a.WellFormed) (hleads : a.Leads d.fullPath top names)
    (hext : (p.run kind o d a).tree.Extends written s)
    (hplace : s.fileAt? (Path.placeOf d.fullPath)
      = (p.run kind o d a).tree.fileAt? (Path.placeOf d.fullPath)) :
    (p.run kind o d s).ending = (p.run kind o d a).ending.settled
      ∧ ∀ q, (p.run kind o d s).tree.get? q = s.get? q := by
  unfold Plan.run at hext hplace ⊢
  cases htodo : p.todo with
  | fail e => exact ⟨rfl, fun _ => rfl⟩
  | leave message => exact ⟨rfl, fun _ => rfl⟩
  | write m =>
      simp only [htodo] at hext hplace ⊢
      rcases perform_write_cases kind o d a m with
        ⟨hdry, -⟩ | ⟨-, b, hreplace, hp⟩ | ⟨-, b, e, hreplace, hp⟩
      · rw [hwrite] at hdry
        cases hdry
      · rw [hp] at hext hplace ⊢
        obtain ⟨hread, s', hagain, hsame⟩ := Tree.replace_again hreplace hext hplace
        rw [perform_write_ok hwrite hagain]
        refine ⟨?_, hsame⟩
        -- the old text is the new one
        simp only [outcomeOf, hread, difference_of_write hwrite, Except.toOption, Kind.preview,
          beq_self_eq_true, if_true]
        rfl
      · rw [hp] at hext ⊢
        rw [perform_write_error hwrite (Tree.replace_error_again hw hleads hreplace hext m.code)]
        exact ⟨rfl, fun _ => rfl⟩

/-- What a kind did the second time, `b`, when it did `a` the first time. -/
structure KindRun.Settles (a b : KindRun) : Prop where
  found : b.found = a.found
  diagnostics : b.diagnostics = a.diagnostics
  exclusions : b.exclusions = a.exclusions
  ending : b.ending = a.ending.settled

namespace KindRun.Settles

variable {a b : KindRun}

theorem files (h : a.Settles b) : b.files = a.files.map FileOutcome.settled := by
  unfold KindRun.files
  rw [h.ending]
  cases a.ending <;> rfl

theorem errors (h : a.Settles b) : b.errors = a.errors := by
  unfold KindRun.errors
  rw [h.ending]
  cases a.ending <;> rfl

theorem warnings (h : a.Settles b) (kind : RecordKind) : b.warnings kind = a.warnings kind := by
  unfold KindRun.warnings
  rw [h.ending, h.exclusions]
  cases a.ending <;> rfl

end KindRun.Settles

/-- **The report is settled when all kinds are.** -/
theorem reportOf_settled {o : Options} {said said' : RecordKind → KindRun} {packages : Nat}
    (h : ∀ k, (said k).Settles (said' k)) :
    reportOf o (said' .component) (said' .command) (said' .pattern) packages
      = (reportOf o (said .component) (said .command) (said .pattern) packages).settled := by
  have hpaths : ∀ files : List FileOutcome,
      (files.map FileOutcome.settled).map (fun f => f.path) = files.map fun f => f.path := by
    intro files
    rw [List.map_map]
    rfl
  simp only [reportOf, Report.settled, List.flatMap_cons, List.flatMap_nil, List.map_append,
    (h _).files, hpaths, (h _).errors, (h _).warnings, (h _).found, (h _).diagnostics, List.map_nil]

/-! ## The second run

The kinds are run one after the other again, and each of them finds the tree as the first run has
left it. -/

section Rerun

variable {t : Tree} {root : String} {c : Config} {o : Options}

/-- A run puts files at the places of modules and nowhere else. -/
theorem run_extends (t : Tree) (root : String) (c : Config) (o : Options) :
    t.Extends (fun p => ∃ k, p = outputPlace root c k) (run t root c o).tree := by
  rw [(run_eq t root c o).2]
  exact (extends_stages (stage_extends t root c o)).mono fun p ⟨k, hp, _⟩ => ⟨k, hp⟩

/-- **One kind again** ends as before and changes nothing. -/
theorem step_again (hproject : IsProject t root) (hsep : Separate t root c)
    (hwrite : o.dryRun = false) (k : RecordKind) {written : Place → Prop} {s : Tree}
    (hext : (run t root c o).tree.Extends written s)
    (hsame : ∀ q, s.get? q = (run t root c o).tree.get? q) :
    (stepOf t root c o k s).ending = (stage (stepOf t root c o) t k).ending.settled
      ∧ ∀ q, (stepOf t root c o k s).tree.get? q = s.get? q := by
  have hbefore := extends_before (stage_extends t root c o) k
  have hafter := extends_after (stage_extends t root c o) k
  rw [← (run_eq t root c o).2] at hafter
  obtain ⟨top, names, hleads⟩ := leads_output hproject hsep k
  -- the other kinds have not written the module of this one
  have helsewhere : ¬ ∃ j, j ≠ k ∧ writtenBy t root c o j (outputPlace root c k) := by
    rintro ⟨j, hj, hplace, -⟩
    exact hsep.apart k j hj.symm hplace
  have hfile : s.fileAt? (outputPlace root c k)
      = (stage (stepOf t root c o) t k).tree.fileAt? (outputPlace root c k) := by
    rw [← hafter.fileAt helsewhere, Tree.fileAt?, hsame, Tree.fileAt?]
  have hext' : (stage (stepOf t root c o) t k).tree.Extends (fun _ => True) s :=
    (hafter.mono fun _ _ => trivial).trans (hext.mono fun _ _ => trivial)
  rw [outputPlace] at hfile
  rw [stage, stepOf] at hfile hext' ⊢
  exact Plan.run_again hwrite (hbefore.wellFormed hproject.wellFormed) (hleads.of_extends hbefore)
    hext' hfile

/-- The second run finds every kind as the first run has left it. -/
theorem before_again (hproject : IsProject t root) (hsep : Separate t root c)
    (hwrite : o.dryRun = false) (k : RecordKind) :
    (run t root c o).tree.Extends (fun _ => True)
        (before (stepOf t root c o) (run t root c o).tree k)
      ∧ ∀ q, (before (stepOf t root c o) (run t root c o).tree k).get? q
          = (run t root c o).tree.get? q := by
  have hstep : ∀ (k : RecordKind) (s : Tree),
      s.Extends (fun _ => True) (stepOf t root c o k s).tree :=
    fun k s => (perform_extends _).mono fun _ _ => trivial
  have hfirst := Tree.Extends.refl (fun _ => True) (run t root c o).tree
  have hsecond := hstep .component (run t root c o).tree
  have hone := (step_again hproject hsep hwrite .component hfirst fun _ => rfl).2
  cases k with
  | component => exact ⟨hfirst, fun _ => rfl⟩
  | command => exact ⟨hsecond, hone⟩
  | pattern =>
      have htwo := (step_again hproject hsep hwrite .command hsecond hone).2
      exact ⟨hsecond.trans (hstep .command _), fun q => (htwo q).trans (hone q)⟩

/-- **The second run** finds and reports all that the first one did, has no file to change, and
leaves the tree as it is. -/
theorem rerun_settled (t : Tree) (root : String) (c : Config) (o : Options)
    (hproject : IsProject t root) (hsep : Separate t root c) (hunsearched : Unsearched root c)
    (hwrite : o.dryRun = false) :
    (run (run t root c o).tree root c o).report = (run t root c o).report.settled
      ∧ ∀ p, (run (run t root c o).tree root c o).tree.get? p = (run t root c o).tree.get? p := by
  obtain ⟨hstep, hpackages⟩ :=
    stepOf_rerun hproject hsep hunsearched (run_extends t root c o) o
  -- every kind finds its module as it has left it, also where it could not write it
  have hagain : ∀ k, (stage (stepOf t root c o) t k).Settles
        (stage (stepOf t root c o) (run t root c o).tree k)
      ∧ ∀ q, (stage (stepOf t root c o) (run t root c o).tree k).tree.get? q
          = (run t root c o).tree.get? q := by
    intro k
    obtain ⟨hext, hsame⟩ := before_again hproject hsep hwrite k
    obtain ⟨hending, htree⟩ := step_again hproject hsep hwrite k hext hsame
    exact ⟨⟨rfl, rfl, rfl, hending⟩, fun q => (htree q).trans (hsame q)⟩
  obtain ⟨hreport, htree⟩ := run_eq (run t root c o).tree root c o
  rw [hstep] at htree
  rw [hstep, hpackages] at hreport
  refine ⟨?_, ?_⟩
  · rw [hreport, reportOf_settled fun k => (hagain k).1, ← (run_eq t root c o).1]
  · intro q
    rw [htree, (hagain .pattern).2]

end Rerun

/-- The patterns are plain names that no module has. -/
theorem unsearched_small : Unsearched "/p" (smallConfig "b.ts") := by
  refine ⟨?_, elsewhere_of_drop ?_⟩
  · intro k
    cases k with
    | component => decide
    | command => decide
    | pattern => decide
  · intro j k
    rw [outputPlace_small]
    cases j with
    | component => cases k <;> decide
    | command => cases k <;> decide
    | pattern => cases k <;> decide

/-- In the small project the first run writes two modules, and the second one changes nothing. -/
theorem rerun_settled_small :
    (run smallTree "/p" (smallConfig "b.ts") {}).report.stats.filesGenerated = ["o/b.ts", "o/p.ts"]
      ∧ (run (run smallTree "/p" (smallConfig "b.ts") {}).tree "/p" (smallConfig "b.ts") {}).report
          = (run smallTree "/p" (smallConfig "b.ts") {}).report.settled
      ∧ ∀ p, (run (run smallTree "/p" (smallConfig "b.ts") {}).tree "/p" (smallConfig "b.ts")
            {}).tree.get? p
          = (run smallTree "/p" (smallConfig "b.ts") {}).tree.get? p :=
  ⟨filesGenerated_small {},
    rerun_settled smallTree "/p" (smallConfig "b.ts") {} isProject_small clear_small.toSeparate
      unsearched_small rfl⟩

/-! ## A pattern with a dot

A pattern that begins with a dot may stand for the directory above, though two dots are no part of it.
So it finds a file through a directory that was made by the run before. -/

/-- No path and no pattern has two dots as a part. -/
structure Undotted (c : Config) : Prop where
  patterns : ∀ k, ∀ p ∈ (c.source k).patterns, ".." ∉ Path.pieces p
  paths : ∀ k path, (c.source k).reference = some path ∨ (c.source k).categoryRoot = some path →
    ".." ∉ Path.pieces path

/-- An empty source of components and a pattern. -/
def dottedTree : Tree where
  entries :=
    [(["p"], .directory),
     (["p", "c.ts"], .file ⟨.text "", Tree.newFileMode⟩),
     (["p", "s.ts"], .file ⟨.text "/** d */\nexport const aPattern = 'x';\n", Tree.newFileMode⟩)]

/-- The components are looked for through the directory of the modules, where nothing is yet. -/
def dottedConfig : Config where
  outputDir := "o"
  components := ⟨["o/.*/c.ts"], "b.ts", none, true, none⟩
  commands := ⟨["cli/*.js"], "m.ts", none, false, none⟩
  patterns := ⟨["s.ts"], "p.ts", none, true, none⟩

theorem isProject_dotted : IsProject dottedTree "/p" := by
  refine ⟨?_, ?_⟩
  · decide
  · decide

/-- The modules go where those of the small project do. -/
theorem outputPlace_dotted (k : RecordKind) :
    outputPlace "/p" dottedConfig k = outputPlace "/p" (smallConfig "b.ts") k := by
  cases k <;> rfl

theorem separate_dotted : Separate dottedTree "/p" dottedConfig := by
  refine ⟨outputsApart_of_noneBelow ?_, ?_, fun path hpath => (nomatch hpath)⟩
  · intro j k
    rw [outputPlace_dotted, outputPlace_dotted, outputPlace_small, outputPlace_small]
    cases j <;> cases k <;> decide
  · intro k
    cases k with
    | component => decide
    | command => decide
    | pattern => decide

/-- There are no two dots anywhere. -/
theorem undotted_dotted : Undotted dottedConfig := by
  refine ⟨?_, ?_⟩
  · intro k
    cases k with
    | component => decide
    | command => decide
    | pattern => decide
  · rintro k path (hpath | hpath)
    · cases k <;> cases hpath
    · cases k <;> cases hpath

/-- No pattern asks for a module by its names. -/
theorem elsewhere_dotted (j k : RecordKind) (names : List String)
    (hnames : (dottedConfig.source j).Reaches names) :
    Path.placeOf "/p" ++ names ≠ outputPlace "/p" dottedConfig k := by
  refine elsewhere_of_drop (fun j k => ?_) j k names hnames
  cases j with
  | component => cases k <;> decide
  | command => cases k <;> decide
  | pattern => cases k <;> decide

/-- The pattern is that of the small project. -/
theorem planFor_dotted (r : ReferenceRun) :
    ∃ m, (planFor dottedTree "/p" dottedConfig r .pattern).todo = .write m := by
  obtain ⟨e, he, hrecords⟩ : ∃ e, extractPatterns dottedTree "/p" dottedConfig = .ok e
      ∧ e.records = [smallPattern] := by
    apply exists_records
    decide +kernel
  have hgenerator : Emit.Patterns.generator dottedConfig.patterns.patterns = smallPatterns := rfl
  refine ⟨⟨Emit.moduleCode smallPatterns [smallPattern], [], 1⟩, ?_⟩
  rw [planFor, he, hgenerator, Kind.planOf, hrecords, todoOf_smallPatterns]

/-- At first no component is found, as there is no such directory. -/
theorem planFor_dotted_component (r : ReferenceRun) :
    ∃ e, (planFor dottedTree "/p" dottedConfig r .component).todo = .fail e
      ∧ e.phase = .extract .component := by
  have hnone : (extractComponents dottedTree "/p" dottedConfig).toOption.isNone = true := by
    decide +kernel
  rw [planFor]
  cases hextract : extractComponents dottedTree "/p" dottedConfig with
  | error e => exact ⟨_, rfl, rfl⟩
  | ok e =>
      rw [hextract] at hnone
      cases hnone

/-- There are no sources of commands, and there need not be any. -/
theorem planFor_dotted_command (r : ReferenceRun) :
    ∃ message, (planFor dottedTree "/p" dottedConfig r .command).todo = .leave message := by
  obtain ⟨e, he, hrecords⟩ : ∃ e, extractCommands dottedTree "/p" dottedConfig = .ok e
      ∧ e.records = [] := by
    apply exists_records
    decide +kernel
  rw [planFor, he, planCommands, hrecords]
  simp only [List.isEmpty_nil, if_true, Kind.planOf, hrecords, Kind.todoOf]
  exact ⟨_, rfl⟩

/-- The run makes the directory of the modules. -/
theorem isDirectory_dotted : (run dottedTree "/p" dottedConfig {}).tree.isDirectory "/p/o" = true := by
  -- the first two kinds write nothing
  obtain ⟨e, hcomponent, -⟩ :=
    planFor_dotted_component (referenceOf dottedTree "/p" dottedConfig {})
  obtain ⟨message, hcommand⟩ :=
    planFor_dotted_command (referenceOf dottedTree "/p" dottedConfig {})
  obtain ⟨m, hpattern⟩ := planFor_dotted (referenceOf dottedTree "/p" dottedConfig {})
  have hfirst : (stepOf dottedTree "/p" dottedConfig {} .component dottedTree).tree = dottedTree := by
    rw [stepOf, Plan.run, hcomponent]
    rfl
  have hsecond : (stepOf dottedTree "/p" dottedConfig {} .command dottedTree).tree = dottedTree := by
    rw [stepOf, Plan.run, hcommand]
    rfl
  have hparent : Path.parent (destination "/p" dottedConfig .pattern).fullPath = "/p/o" := by
    decide
  have hmakes : (dottedTree.makeDirectories "/p/o").2 = none := by
    decide
  have htree : (run dottedTree "/p" dottedConfig {}).tree
      = (dottedTree.replace (destination "/p" dottedConfig .pattern).fullPath m.code).1 := by
    rw [(run_eq dottedTree "/p" dottedConfig {}).2, stage, before, hfirst, hsecond, stepOf, Plan.run,
      hpattern, perform_write_tree rfl]
  rw [← hparent] at hmakes
  have hdir := Tree.isDirectory_parent_replace m.code hmakes
  rw [hparent, ← htree] at hdir
  exact hdir

/-- The parts of the pattern with the dot. -/
def dottedParts : List Glob.Part := [.name "o", .wild [.char '.', .many], .name "c.ts"]

/-- The directory that was made leads up again. -/
theorem mem_search_dotted {t : Tree} (htop : t.get? ["p"] = some .directory)
    (hmade : t.get? ["p", "o"] = some .directory) (hfile : (t.get? ["p", "c.ts"]).isSome = true) :
    [.into "o", .up, .into "c.ts"] ∈ Glob.search t ["p"] dottedParts := by
  have hdots : Glob.acceptsDots [.char '.', .many] ['.', '.'] = true := by decide
  rw [Glob.search, dottedParts, Glob.searchFrom_name, Glob.mem_guard]
  refine ⟨htop, ?_⟩
  -- from the top into the directory, by the dots back up, and to the file from there
  have hinto : (t.get? (Glob.Route.follow ["p"] [] ++ ["o"])).isSome = true := by
    rw [show Glob.Route.follow ["p"] [] ++ ["o"] = ["p", "o"] from rfl, hmade]
    rfl
  rw [if_pos hinto, Glob.searchFrom_wild, Glob.mem_guard]
  refine ⟨hmade, ?_⟩
  rw [if_pos hdots]
  refine List.mem_append_right _ ?_
  rw [Glob.searchFrom_name, Glob.mem_guard]
  refine ⟨htop, ?_⟩
  have hlast : (t.get? (Glob.Route.follow ["p"] ([] ++ [.into "o"] ++ [.up]) ++ ["c.ts"])).isSome
      = true := hfile
  rw [if_pos hlast, Glob.searchFrom_nil]
  exact List.mem_singleton.mpr rfl

/-- The components are found when the run is over. -/
theorem extractComponents_dotted :
    ∃ e, extractComponents (run dottedTree "/p" dottedConfig {}).tree "/p" dottedConfig = .ok e := by
  have hext := run_extends dottedTree "/p" dottedConfig {}
  have hproject := isProject_dotted.of_extends hext
  have hroot : Path.placeOf "/p" = ["p"] := by decide
  have hout : Path.placeOf "/p/o" = ["p", "o"] := by decide
  obtain ⟨-, hmade⟩ := Tree.walk_named_of_isDirectory isDirectory_dotted
  obtain ⟨-, htop⟩ := Tree.walk_named_of_isDirectory hproject.root
  rw [hout] at hmade
  rw [hroot] at htop
  obtain ⟨f, hfile⟩ := hext.file (p := ["p", "c.ts"]) (f := ⟨.text "", Tree.newFileMode⟩) rfl
  -- now the pattern leads into the directory of the modules and up again
  have hsearch := mem_search_dotted htop hmade (by rw [hfile]; rfl)
  have hglobs : (Extract.globs ["p"] dottedConfig.components.patterns).toOption = some [dottedParts] := by
    decide
  rw [extractComponents, top_eq hproject, hroot]
  generalize (run dottedTree "/p" dottedConfig {}).tree = t at hsearch hfile
  cases hgs : Extract.globs ["p"] dottedConfig.components.patterns with
  | error e =>
      rw [hgs] at hglobs
      cases hglobs
  | ok gs =>
      rw [hgs] at hglobs
      have hparts : gs = [dottedParts] := Option.some.inj hglobs
      rw [hparts] at hgs
      -- there is a file at the end of this route, so that something is discovered
      have hroute : [.into "o", .up, .into "c.ts"] ∈ Extract.fileRoutes t ["p"] [dottedParts] := by
        refine List.mem_filter.mpr ⟨List.mem_flatMap.mpr ⟨_, List.mem_singleton.mpr rfl, hsearch⟩, ?_⟩
        rw [Extract.fileAt?, show Glob.Route.follow ["p"] [.into "o", .up, .into "c.ts"]
          = ["p", "c.ts"] from rfl, Tree.fileAt?_eq_some.mpr hfile]
        rfl
      obtain ⟨sources, hsources⟩ := Extract.discover_isOk_of_mem hgs hroute
      rw [Extract.extract, hsources]
      exact ⟨_, rfl⟩

/-- Once its records are extracted, a kind does not fail in its extraction. -/
theorem phase_of_extracted {ρ : Type} [Catalogued ρ] {g : Emit.Generator ρ} {d : Destination}
    {e : Extract.Extraction ρ} {o : Options} {t : Tree} {error : SyncError}
    (h : ((Kind.planOf g d (.ok e)).run (Catalogued.kind ρ) o d t).ending = .failed error) :
    error.phase ≠ .extract (Catalogued.kind ρ) := by
  obtain ⟨hfail, -⟩ := Kind.todoOf_proper g d e.records
  rcases perform_failed h with htodo | ⟨cause, rfl⟩
  · rw [hfail error htodo]
    exact fun hphase => (nomatch hphase)
  · exact fun hphase => (nomatch hphase)

/-- **A run may find more than the one before**, where no path and no pattern has two dots as a part,
and nothing that could be meant by a pattern is a module. -/
theorem rerun_finds_more :
    ¬ ∀ (t : Tree) (root : String) (c : Config) (o : Options), IsProject t root → Separate t root c →
      Undotted c →
      (∀ j k names, (c.source j).Reaches names →
        Path.placeOf root ++ names ≠ outputPlace root c k) →
      o.dryRun = false →
      (run (run t root c o).tree root c o).report.syncErrors = (run t root c o).report.syncErrors := by
  intro hclaim
  have hsame := hclaim dottedTree "/p" dottedConfig {} isProject_dotted separate_dotted
    undotted_dotted elsewhere_dotted rfl
  have hfailures := congrArg (List.filter fun e => e.phase.isFatalFor .component) hsame
  change Report.failuresOf _ .component = Report.failuresOf _ .component at hfailures
  rw [failuresOf_run, failuresOf_run] at hfailures
  -- the first run does not find the components
  obtain ⟨error, htodo, hphase⟩ :=
    planFor_dotted_component (referenceOf dottedTree "/p" dottedConfig {})
  have hfirst : (stage (stepOf dottedTree "/p" dottedConfig {}) dottedTree .component).errors
      = [error] := by
    rw [stage, before, stepOf, Plan.run, htodo]
    rfl
  -- the second one does
  obtain ⟨e, he⟩ := extractComponents_dotted
  rw [hfirst] at hfailures
  have hmem : error ∈ (stage (stepOf (run dottedTree "/p" dottedConfig {}).tree "/p" dottedConfig {})
      (run dottedTree "/p" dottedConfig {}).tree .component).errors := by
    rw [hfailures]
    exact List.mem_singleton.mpr rfl
  obtain ⟨hending, -⟩ := mem_errors (stage_proper _ "/p" dottedConfig {}) hmem
  rw [stage, before, stepOf, planFor, he] at hending
  exact phase_of_extracted hending hphase

end Sync

end DocCatalog
