import DocCatalog.Proofs.Sync.Accounting

/-!
# What verbosity changes

Whether a run is verbose, and which arguments it does not know, is only seen in what it tells: in the
differences that it shows, and in its warnings about arguments. A run without all that is the plain
run, and every run is compared with the plain one.

* **`Options.plain`**, **`Report.plain`**: options that ask for nothing to be told, and a report
  without what they leave out.
* **`perform_plain`**: a plan is performed alike.
* **`before_plain`**, **`stage_plain`**: so are all kinds, each on the tree that the others have left.
* **`run_plain`**: the plain report of a run is the report of the plain run.
* **`Shows`**: what the options add to a report.
* **`run_verbosity`**: verbosity and unknown arguments change nothing else.
-/

namespace DocCatalog

/-- A file without the difference that is shown. -/
def FileOutcome.plain (f : FileOutcome) : FileOutcome := { f with diff := none }

/-- A file that a run changes, or would. -/
def Preview.isChanged : Preview → Bool
  | .changed .. => true
  | _ => false

attribute [ext] Report

/-- A report without differences, and without warnings about arguments. -/
def Report.plain (r : Report) : Report :=
  { r with
    files := r.files.map FileOutcome.plain
    warnings := r.warnings.filter (·.phase != .parseArgs) }

namespace Sync

/-- Writes as it is asked to, and tells nothing more than it has to. -/
def Options.plain (o : Options) : Options := { dryRun := o.dryRun }

/-- The same ending without a difference. -/
def Ending.plain : Ending → Ending
  | .generated f => .generated f.plain
  | e => e

/-- What was done about a kind, without a difference. -/
def KindRun.plain (k : KindRun) : KindRun := { k with ending := k.ending.plain }

/-! ## One kind

The options are asked for verbosity beside the branch that writes, but what they say there is used
for the difference only. -/

/-- The outcome of a module is the same but for its difference. -/
theorem outcomeOf_plain (kind : RecordKind) (o : Options) (d : Destination)
    (m : Emit.GeneratedModule) (t : Tree) :
    outcomeOf kind o.plain d m t = (outcomeOf kind o d m t).plain := by
  have hnone : ∀ old, Kind.difference o.plain d.path old m.code = none := by
    intro old
    cases old with
    | none => rfl
    | some old => simp [Kind.difference, Options.plain]
  simp only [outcomeOf, FileOutcome.plain, hnone]
  rfl

/-- **A plan is performed alike**, on any tree. -/
theorem perform_plain (kind : RecordKind) (o : Options) (d : Destination) (t : Tree) (todo : Todo) :
    todo.perform kind o.plain d t
      = ((todo.perform kind o d t).1.plain, (todo.perform kind o d t).2) := by
  cases todo with
  | fail e => rfl
  | leave message => rfl
  | write m =>
      -- the plain run is dry, writes and fails to write where the other does
      rcases perform_write_cases kind o d t m with
        ⟨hdry, hp⟩ | ⟨hdry, t', hreplace, hp⟩ | ⟨hdry, t', e, hreplace, hp⟩
      · have hplain : o.plain.dryRun = true := hdry
        rw [hp, perform_write_dry hplain, outcomeOf_plain]
        rfl
      · have hplain : o.plain.dryRun = false := hdry
        rw [hp, perform_write_ok hplain hreplace, outcomeOf_plain]
        rfl
      · have hplain : o.plain.dryRun = false := hdry
        rw [hp, perform_write_error hplain hreplace]
        rfl

/-- A plan is carried out alike. -/
theorem Plan.run_plain (kind : RecordKind) (o : Options) (d : Destination) (p : Plan) (t : Tree) :
    p.run kind o.plain d t = (p.run kind o d t).plain := by
  simp only [Plan.run, perform_plain, KindRun.plain]

theorem KindRun.plain_tree (k : KindRun) : k.plain.tree = k.tree := rfl

/-! ## All kinds

Each kind is run on the tree that the ones before have left. As these trees are the same, so is what
is done on them. -/

/-- Only the trees that the kinds leave matter to the kinds behind them. -/
theorem before_congr {step step' : RecordKind → Tree → KindRun}
    (h : ∀ k s, (step' k s).tree = (step k s).tree) (t : Tree) (k : RecordKind) :
    before step' t k = before step t k := by
  cases k with
  | component => rfl
  | command => exact h .component t
  | pattern => rw [before, before, h .component, h .command]

section Stages

variable (t : Tree) (root : String) (c : Config) (o : Options)

/-- The quick reference is read from the same tree. -/
theorem referenceOf_plain : referenceOf t root c o.plain = referenceOf t root c o := by
  rw [referenceOf, Plan.run_plain, KindRun.plain_tree]
  rfl

/-- What is done about one kind on one tree. -/
theorem stepOf_plain (k : RecordKind) (s : Tree) :
    stepOf t root c o.plain k s = (stepOf t root c o k s).plain := by
  rw [stepOf, referenceOf_plain, Plan.run_plain]
  rfl

/-- **Every kind finds the tree that it finds in the plain run.** -/
theorem before_plain (k : RecordKind) :
    before (stepOf t root c o.plain) t k = before (stepOf t root c o) t k := by
  refine before_congr (fun j s => ?_) t k
  rw [stepOf_plain, KindRun.plain_tree]

/-- **Each kind** in its turn. -/
theorem stage_plain (k : RecordKind) :
    stage (stepOf t root c o.plain) t k = (stage (stepOf t root c o) t k).plain := by
  rw [stage, before_plain, stepOf_plain, stage]

end Stages

/-! ## Reports

The plain report leaves out differences and what is said about arguments. -/

section Report

/-- The files of a kind without their differences. -/
theorem KindRun.files_plain (k : KindRun) : k.plain.files = k.files.map FileOutcome.plain := by
  cases k with
  | mk found diagnostics exclusions ending tree log =>
      cases ending with
      | generated f => rfl
      | untouched message => rfl
      | failed e => rfl

theorem KindRun.errors_plain (k : KindRun) : k.plain.errors = k.errors := by
  cases k with
  | mk found diagnostics exclusions ending tree log =>
      cases ending with
      | generated f => rfl
      | untouched message => rfl
      | failed e => rfl

theorem KindRun.warnings_plain (kind : RecordKind) (k : KindRun) :
    k.plain.warnings kind = k.warnings kind := by
  cases k with
  | mk found diagnostics exclusions ending tree log =>
      cases ending with
      | generated f => rfl
      | untouched message => rfl
      | failed e => rfl

variable {o : Options} {said : RecordKind → KindRun} {packages : Nat}

/-- Nothing that is said of a kind is about arguments. -/
theorem filter_warnings_reportOfAll :
    (reportOfAll o said packages).warnings.filter (·.phase != .parseArgs)
      = RecordKind.all.flatMap fun k => (said k).warnings k := by
  have hunknown : (o.unknown.map fun a => (⟨.parseArgs, none, unknownMessage a⟩ : Warning)).filter
      (·.phase != .parseArgs) = [] := by
    refine List.filter_eq_nil_iff.mpr fun w hw => ?_
    obtain ⟨a, -, rfl⟩ := List.mem_map.mp hw
    exact Bool.false_ne_true
  have hkinds : (RecordKind.all.flatMap fun k => (said k).warnings k).filter (·.phase != .parseArgs)
      = RecordKind.all.flatMap fun k => (said k).warnings k := by
    refine List.filter_eq_self.mpr fun w hw => ?_
    obtain ⟨k, -, hk⟩ := List.mem_flatMap.mp hw
    obtain ⟨message, -, rfl⟩ := List.mem_map.mp hk
    rfl
  rw [warnings_reportOfAll, List.filter_append, hunknown, hkinds, List.nil_append]

/-- **The plain report** is the report of the plain runs. -/
theorem plain_reportOfAll :
    (reportOfAll o said packages).plain
      = reportOfAll o.plain (fun k => (said k).plain) packages := by
  have hfiles : (reportOfAll o said packages).files.map FileOutcome.plain
      = (reportOfAll o.plain (fun k => (said k).plain) packages).files := by
    simp only [files_reportOfAll, List.map_flatMap, KindRun.files_plain]
  have hwarnings : (reportOfAll o said packages).warnings.filter (·.phase != .parseArgs)
      = (reportOfAll o.plain (fun k => (said k).plain) packages).warnings := by
    rw [filter_warnings_reportOfAll, warnings_reportOfAll]
    simp only [KindRun.warnings_plain]
    rfl
  have herrors : (reportOfAll o said packages).syncErrors
      = (reportOfAll o.plain (fun k => (said k).plain) packages).syncErrors := by
    simp only [syncErrors_reportOfAll, KindRun.errors_plain]
  -- the files are also listed by their paths
  have hstats : (reportOfAll o said packages).stats
      = (reportOfAll o.plain (fun k => (said k).plain) packages).stats := by
    have hpath : (reportOfAll o said packages).files.map (·.path)
        = (reportOfAll o.plain (fun k => (said k).plain) packages).files.map (·.path) := by
      rw [← hfiles, List.map_map]
      rfl
    exact congrArg (fun paths => { (reportOfAll o said packages).stats with filesGenerated := paths })
      hpath
  exact Report.ext rfl hstats hfiles hwarnings rfl herrors

end Report

/-! ## Runs

All this for a whole run, and what is left: the differences and the warnings about arguments. -/

/-- **The plain report of a run is the report of the plain run**, and both leave the same tree. -/
theorem run_plain (t : Tree) (root : String) (c : Config) (o : Options) :
    (run t root c o).report.plain = (run t root c o.plain).report
      ∧ (run t root c o).tree = (run t root c o.plain).tree := by
  have hstage := stage_plain t root c o
  constructor
  · rw [report_eq, report_eq, plain_reportOfAll, referenceOf_plain, funext hstage]
  · rw [(run_eq t root c o).2, (run_eq t root c o.plain).2, hstage, KindRun.plain_tree]

/-- What the options add to a plain report: a warning for each unknown argument, in front of all
others, and the differences of the files that a verbose dry run would change. -/
structure Shows (o : Options) (r : Report) : Prop where
  unknown : r.warnings
    = o.unknown.map (fun a => ⟨.parseArgs, none, "unknown argument: " ++ a⟩) ++ r.plain.warnings
  diff : ∀ f ∈ r.files, f.diff.isSome = true ↔
    o.dryRun = true ∧ o.verbose = true ∧ f.preview.isChanged = true

/-- There is something to show where the preview says that the file changes. -/
theorem isSome_difference (o : Options) (path : String) (old : Option String) (new : String) :
    (Kind.difference o path old new).isSome = true ↔
      o.dryRun = true ∧ o.verbose = true ∧ (Kind.preview old new).isChanged = true := by
  cases old with
  | none => simp [Kind.difference, Kind.preview, Preview.isChanged]
  | some old =>
      by_cases hsame : old = new
      · simp [Kind.difference, Kind.preview, Preview.isChanged, hsame]
      · cases hdry : o.dryRun <;> cases hverbose : o.verbose <;>
          simp [Kind.difference, Kind.preview, Preview.isChanged, hsame, hdry, hverbose]

theorem Plan.run_diff {kind : RecordKind} {o : Options} {d : Destination} {p : Plan} {t : Tree}
    {f : FileOutcome} (h : (p.run kind o d t).ending = .generated f) :
    f.diff.isSome = true ↔ o.dryRun = true ∧ o.verbose = true ∧ f.preview.isChanged = true := by
  obtain ⟨⟨m, -, rfl⟩, -⟩ := perform_generated h
  unfold outcomeOf
  generalize (t.readText d.fullPath).toOption = old
  exact isSome_difference o d.path old m.code

theorem shows_run (t : Tree) (root : String) (c : Config) (o : Options) :
    Shows o (run t root c o).report := by
  rw [report_eq]
  constructor
  · rw [Report.plain]
    simp only
    rw [filter_warnings_reportOfAll, warnings_reportOfAll]
    rfl
  · intro f hf
    rw [files_reportOfAll] at hf
    obtain ⟨k, -, hk⟩ := List.mem_flatMap.mp hf
    have hending := (mem_files (stage_proper t root c o) hk).1
    rw [stage, stepOf] at hending
    exact Plan.run_diff hending

/-- **Verbosity and unknown arguments change nothing but what is told.** Two runs from one tree, both
dry or both not, leave the same tree and have the same plain report. -/
theorem run_verbosity (t : Tree) (root : String) (c : Config) (dryRun verbose verbose' : Bool)
    (unknown unknown' : List String) :
    let o : Options := ⟨dryRun, verbose, unknown⟩
    let o' : Options := ⟨dryRun, verbose', unknown'⟩
    (run t root c o').tree = (run t root c o).tree
      ∧ (run t root c o').report.plain = (run t root c o).report.plain
      ∧ Shows o (run t root c o).report ∧ Shows o' (run t root c o').report := by
  intro o o'
  obtain ⟨hreport, htree⟩ := run_plain t root c o
  obtain ⟨hreport', htree'⟩ := run_plain t root c o'
  -- the plain run is the same for both
  have hplain : o'.plain = o.plain := rfl
  rw [hplain] at hreport' htree'
  exact ⟨htree'.trans htree.symm, hreport'.trans hreport.symm, shows_run t root c o,
    shows_run t root c o'⟩

end Sync

end DocCatalog
