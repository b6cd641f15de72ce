import DocCatalog.Proofs.Sync.Accounting
import DocCatalog.Proofs.Sync.Separation

/-!
# Dry runs

A dry run says what a run would do. The two part only where a module cannot be written.

* **`Ending.Announces`**: how a kind can end in a dry run and in one that writes.
* **`Plan.Proper.announces`**: a plan ends so when the module is read alike.
* **`Report.Announces`**: the same of whole reports.
* **`dryRun_announces`**: a dry run announces the run that writes.
-/

namespace DocCatalog

/-- What is said of a file whether it is written or not. -/
def FileOutcome.shown (f : FileOutcome) : RecordKind × String × Nat × Preview × String :=
  (f.kind, f.path, f.records, f.preview, f.code)

def Phase.isWrite : Phase → Bool
  | .write _ => true
  | _ => false

/-- Whether the module of a kind could not be written. -/
def Report.failedToWrite (r : Report) (kind : RecordKind) : Bool :=
  r.syncErrors.any (·.phase == .write kind)

/-- What the report `d` of a dry run says holds of the report `r` of one that writes, but for modules
that could not be written. -/
structure Report.Announces (d r : Report) : Prop where
  diagnostics : r.diagnostics = d.diagnostics
  warnings : r.warnings = d.warnings
  components : r.stats.components = d.stats.components
  commands : r.stats.commands = d.stats.commands
  patterns : r.stats.patterns = d.stats.patterns
  packages : r.stats.packages = d.stats.packages
  errors : r.syncErrors.filter (fun e => !e.phase.isWrite) = d.syncErrors
  unwritten : ∀ k, r.failedToWrite k = true → ∃ f ∈ d.files, f.kind = k
  files : r.files.map FileOutcome.shown
    = (d.files.filter fun f => !r.failedToWrite f.kind).map FileOutcome.shown
  filesGenerated : r.stats.filesGenerated
    = (d.files.filter fun f => !r.failedToWrite f.kind).map FileOutcome.path

namespace Sync

/-! ## One kind

A dry run plans what the run that writes plans, and says so of each module. They part where a module
can be generated but not put into the tree. -/

/-- A kind that fails or leaves its module does so in both runs. A module that is generated is either
generated in both, or it cannot be written. -/
inductive Ending.Announces (kind : RecordKind) : Ending → Ending → Prop
  | failed {e : SyncError} (h : e.phase.isWrite = false) : Announces kind (.failed e) (.failed e)
  | untouched (message : String) : Announces kind (.untouched message) (.untouched message)
  | generated {f f' : FileOutcome} (h : f'.shown = f.shown) :
      Announces kind (.generated f) (.generated f')
  | unwritten (f : FileOutcome) {e : SyncError} (h : e.phase = .write kind) :
      Announces kind (.generated f) (.failed e)

/-- What a kind did in a dry run and in one that writes. -/
structure KindRun.Announces (kind : RecordKind) (d r : KindRun) : Prop where
  found : r.found = d.found
  diagnostics : r.diagnostics = d.diagnostics
  exclusions : r.exclusions = d.exclusions
  ending : d.ending.Announces kind r.ending

/-- **A plan ends alike** where the module is read alike, unless the module cannot be written. -/
theorem Plan.Proper.announces {kind : RecordKind} {o o' : Options} {d : Destination} {p : Plan}
    {t t' : Tree} (h : p.Proper kind d) (hdry : o.dryRun = true) (hwrite : o'.dryRun = false)
    (hread : (t'.readText d.fullPath).toOption = (t.readText d.fullPath).toOption) :
    (p.run kind o d t).Announces kind (p.run kind o' d t') := by
  refine ⟨rfl, rfl, rfl, ?_⟩
  unfold Plan.run
  cases htodo : p.todo with
  | leave message => exact .untouched message
  | fail e =>
      refine .failed ?_
      rcases h.fails e htodo with hphase | hphase
      · rw [hphase]
        rfl
      · rw [hphase]
        rfl
  | write m =>
      simp only
      rw [perform_write_dry hdry]
      have hshown : (outcomeOf kind o' d m t').shown = (outcomeOf kind o d m t).shown := by
        simp only [outcomeOf, FileOutcome.shown, hread]
      -- the run that writes has written its module or has failed in the phase of writing
      rcases perform_write_cases kind o' d t' m with
        ⟨hdry', -⟩ | ⟨-, t'', -, hp⟩ | ⟨-, t'', e, -, hp⟩
      · rw [hwrite] at hdry'
        cases hdry'
      · rw [hp]
        exact .generated hshown
      · rw [hp]
        exact .unwritten _ rfl

/-! ## Reports

A report is put together from the kinds, so what one report announces of the other is put together
from them as well: an error about writing a module belongs to one kind. -/

section Report

variable {o o' : Options} {d : RecordKind → Destination} {said said' : RecordKind → KindRun}
  {packages : Nat}

/-- Whether a module could not be written is up to its own kind. -/
theorem failedToWrite_reportOfAll (packages : Nat) (hproper : ∀ k, (said k).Proper k o (d k))
    (k : RecordKind) :
    (reportOfAll o said packages).failedToWrite k = (said k).errors.any (·.phase == .write k) := by
  rw [Bool.eq_iff_iff, Report.failedToWrite, List.any_eq_true, List.any_eq_true,
    syncErrors_reportOfAll]
  constructor
  · rintro ⟨e, he, hphase⟩
    obtain ⟨j, -, hj⟩ := List.mem_flatMap.mp he
    -- an error about writing a module is one of the kind that has it
    have hfatal := (mem_errors hproper hj).2
    rw [eq_of_beq hphase] at hfatal
    have hkind : k = j := eq_of_beq hfatal
    rw [← hkind] at hj
    exact ⟨e, hj, hphase⟩
  · rintro ⟨e, he, hphase⟩
    exact ⟨e, List.mem_flatMap.mpr ⟨k, by cases k <;> decide, he⟩, hphase⟩

variable {a b : KindRun} {kind : RecordKind}

theorem KindRun.Announces.errors (h : a.Announces kind b) :
    b.errors.filter (fun e => !e.phase.isWrite) = a.errors := by
  have hending := h.ending
  unfold KindRun.errors
  generalize a.ending = x, b.ending = y at hending
  cases hending with
  | failed hphase => simp [hphase]
  | untouched message => rfl
  | generated hshown => rfl
  | unwritten f hphase => simp [hphase, Phase.isWrite]

theorem KindRun.Announces.warnings (h : a.Announces kind b) : b.warnings kind = a.warnings kind := by
  have hending := h.ending
  unfold KindRun.warnings
  rw [h.exclusions]
  generalize a.ending = x, b.ending = y at hending
  cases hending <;> rfl

/-- The files that a dry run says would be written are written, unless they could not be. -/
theorem KindRun.Announces.files (h : a.Announces kind b) :
    b.files.map FileOutcome.shown
      = if b.errors.any (·.phase == .write kind) then [] else a.files.map FileOutcome.shown := by
  have hending := h.ending
  unfold KindRun.files KindRun.errors
  generalize a.ending = x, b.ending = y at hending
  cases hending with
  | failed hphase => simp
  | untouched message => rfl
  | generated hshown => simp [hshown]
  | unwritten f hphase => simp [hphase]

/-- A module that could not be written was to be written. -/
theorem KindRun.Announces.files_ne_nil (h : a.Announces kind b)
    (hwrite : b.errors.any (·.phase == .write kind) = true) : a.files ≠ [] := by
  have hending := h.ending
  unfold KindRun.errors at hwrite
  unfold KindRun.files
  generalize a.ending = x, b.ending = y at hending hwrite
  cases hending with
  | untouched message => cases hwrite
  | generated hshown => cases hwrite
  | unwritten f hphase => exact List.cons_ne_nil _ _
  | failed hphase =>
      rw [List.any_cons, List.any_nil, Bool.or_false] at hwrite
      rw [eq_of_beq hwrite] at hphase
      cases hphase

/-- What is kept of the files of a kind is all of them or nothing. -/
theorem filter_files (hproper : ∀ k, (said k).Proper k o (d k)) (failed : RecordKind → Bool)
    (k : RecordKind) :
    (said k).files.filter (fun f => !failed f.kind) = if failed k then [] else (said k).files := by
  have hcongr : ∀ f ∈ (said k).files, (!failed f.kind) = !failed k := by
    intro f hf
    rw [(mem_files hproper hf).2]
  rw [List.filter_congr hcongr]
  cases failed k with
  | true => simp
  | false => simp

/-- **Reports announce each other when all kinds do.** -/
theorem announces_reportOfAll (hproper : ∀ k, (said k).Proper k o (d k))
    (hproper' : ∀ k, (said' k).Proper k o' (d k)) (hunknown : o'.unknown = o.unknown)
    (h : ∀ k, (said k).Announces k (said' k)) :
    (reportOfAll o said packages).Announces (reportOfAll o' said' packages) := by
  have hkinds : ∀ {α : Type} {f g : RecordKind → List α}, (∀ k, g k = f k) →
      RecordKind.all.flatMap g = RecordKind.all.flatMap f := by
    intro α f g hfg
    rw [funext hfg]
  -- files are dropped where the module could not be written, kind by kind
  have hfailed := fun k => failedToWrite_reportOfAll packages hproper' k
  have hfiles : (reportOfAll o' said' packages).files.map FileOutcome.shown
      = ((reportOfAll o said packages).files.filter fun f =>
          !(reportOfAll o' said' packages).failedToWrite f.kind).map FileOutcome.shown := by
    rw [files_reportOfAll, files_reportOfAll, List.filter_flatMap, List.map_flatMap,
      List.map_flatMap]
    refine hkinds fun k => ?_
    rw [filter_files hproper, hfailed k, (h k).files]
    split <;> rfl
  refine ⟨?_, ?_, (h .component).found, (h .command).found, (h .pattern).found, rfl, ?_, ?_, hfiles,
    ?_⟩
  · rw [diagnostics_reportOfAll, diagnostics_reportOfAll]
    refine hkinds fun k => ?_
    rw [(h k).diagnostics]
  · rw [warnings_reportOfAll, warnings_reportOfAll, hunknown, hkinds fun k => (h k).warnings]
  · rw [syncErrors_reportOfAll, syncErrors_reportOfAll, List.filter_flatMap]
    exact hkinds fun k => (h k).errors
  · intro k hk
    rw [hfailed k] at hk
    obtain ⟨f, rest, hf⟩ := List.exists_cons_of_ne_nil ((h k).files_ne_nil hk)
    have hmem : f ∈ (said k).files := hf ▸ List.mem_cons_self
    refine ⟨f, ?_, (mem_files hproper hmem).2⟩
    rw [files_reportOfAll]
    exact List.mem_flatMap.mpr ⟨k, by cases k <;> decide, hmem⟩
  · have hpaths := congrArg (List.map fun s => s.2.1) hfiles
    rw [List.map_map, List.map_map] at hpaths
    exact hpaths

end Report

/-! ## Runs

The modules of the other kinds are out of the way of this one, so it finds the same file whether
they are written or not. -/

theorem stage_announces {t : Tree} {root : String} {c : Config} (o : Options)
    (hproject : IsProject t root) (hsep : Separate t root c) (k : RecordKind) :
    (stage (stepOf t root c { o with dryRun := true }) t k).Announces k
      (stage (stepOf t root c { o with dryRun := false }) t k) := by
  -- the trees differ by the modules of the other kinds
  have hread := (readText_before hproject hsep { o with dryRun := false } k).trans
    (readText_before hproject hsep { o with dryRun := true } k).symm
  unfold stage
  generalize before (stepOf t root c { o with dryRun := true }) t k = u,
    before (stepOf t root c { o with dryRun := false }) t k = u' at hread
  rw [stepOf, stepOf, referenceOf_eq hsep, referenceOf_eq hsep]
  exact (planFor_proper t root c _ k).announces rfl rfl hread

/-- **A dry run announces the run that writes**, begun with the same tree. -/
theorem dryRun_announces (t : Tree) (root : String) (c : Config) (o : Options)
    (hproject : IsProject t root) (hsep : Separate t root c) :
    (run t root c { o with dryRun := true }).report.Announces
      (run t root c { o with dryRun := false }).report := by
  rw [(run_eq t root c _).1, (run_eq t root c _).1, referenceOf_eq hsep, referenceOf_eq hsep]
  exact announces_reportOfAll (stage_proper t root c _) (stage_proper t root c _) rfl
    (stage_announces o hproject hsep)

/-- In the small project the modules that a dry run announces are written. -/
theorem dryRun_announces_small :
    IsProject smallTree "/p" ∧ Separate smallTree "/p" (smallConfig "b.ts")
      ∧ (run smallTree "/p" (smallConfig "b.ts") { dryRun := true }).report.stats.filesGenerated
          = ["o/b.ts", "o/p.ts"]
      ∧ (run smallTree "/p" (smallConfig "b.ts") { dryRun := false }).report.stats.filesGenerated
          = ["o/b.ts", "o/p.ts"]
      ∧ (run smallTree "/p" (smallConfig "b.ts") { dryRun := true }).report.Announces
          (run smallTree "/p" (smallConfig "b.ts") { dryRun := false }).report := by
  have hsep : Separate smallTree "/p" (smallConfig "b.ts") := clear_small.toSeparate
  exact ⟨isProject_small, hsep, filesGenerated_small _, filesGenerated_small _,
    dryRun_announces smallTree "/p" (smallConfig "b.ts") {} isProject_small hsep⟩

end Sync

end DocCatalog
