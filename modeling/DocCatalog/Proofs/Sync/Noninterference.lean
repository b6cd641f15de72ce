import DocCatalog.Proofs.Sync.Accounting
import DocCatalog.Proofs.Sync.Alone

/-!
# Kinds that do not meet

What is reported of a kind depends on its own section of the configuration only. The other kinds can
fail in any way, and in a run that writes none of their files and directories may be in its way.

* **`Report.AgreeOn`**: two reports say the same of a kind.
* **`SharesKind`**: configurations with one section in common.
* **`SharesKind.alone_eq`**: what a kind does as the only one is a matter of its own section.
* **`agreeOn_reportOfAll`**: reports agree on a kind of which they are told the same.
* **`run_agreeOn`**: the other sections do not matter.
-/

namespace DocCatalog

/-- The kind that a phase is about. -/
def Phase.kind? : Phase → Option RecordKind
  | .parseArgs => none
  | .extract k | .generate k | .validate k | .write k => some k

/-- How many records of a kind have been found. -/
def Stats.found (s : Stats) : RecordKind → Nat
  | .component => s.components
  | .command => s.commands
  | .pattern => s.patterns

namespace Report

/-- The warnings about one kind. -/
def warningsOn (r : Report) (kind : RecordKind) : List Warning :=
  r.warnings.filter (·.phase.kind? == some kind)

/-- The diagnostics about one kind. -/
def diagnosticsOn (r : Report) (kind : RecordKind) : List (Phase × Diagnostic) :=
  r.diagnostics.filter (·.1.kind? == some kind)

/-- The errors about one kind. -/
def errorsOn (r : Report) (kind : RecordKind) : List SyncError :=
  r.syncErrors.filter (·.phase.kind? == some kind)

/-- Two reports say the same of a kind. Only commands come with packages. -/
structure AgreeOn (kind : RecordKind) (r r' : Report) : Prop where
  found : r'.stats.found kind = r.stats.found kind
  files : r'.filesOf kind = r.filesOf kind
  warnings : r'.warningsOn kind = r.warningsOn kind
  diagnostics : r'.diagnosticsOn kind = r.diagnosticsOn kind
  errors : r'.errorsOn kind = r.errorsOn kind
  packages : kind = .command → r'.stats.packages = r.stats.packages

end Report

namespace Sync

/-- Two configurations with the same output directory and the same section of a kind. -/
structure SharesKind (kind : RecordKind) (c c' : Config) : Prop where
  outputDir : c'.outputDir = c.outputDir
  source : c'.source kind = c.source kind

/-! ## One kind alone

Alone a kind cannot tell two configurations with its section from each other: all that it asks of them
is this section and the output directory. -/

section Shared

variable {c c' : Config} {kind : RecordKind}

/-- The module goes to the same place. -/
theorem SharesKind.destination_eq (h : SharesKind kind c c') (root : String) :
    destination root c' kind = destination root c kind := by
  rw [destination, destination, h.outputDir, h.source]

/-- Commands are planned alike. -/
theorem planCommands_shared (h : c'.commands = c.commands) (d : Destination) (r : ReferenceRun)
    (extracted : Except Extract.DiscoverError (Extract.Extraction CommandRecord)) :
    planCommands c' d r extracted = planCommands c d r extracted := by
  cases extracted with
  | error e => simp only [planCommands, h]
  | ok e => simp only [planCommands, h]

/-- **What is to be done about a kind** is a matter of its own section. -/
theorem SharesKind.alone_eq (h : SharesKind kind c c') (t : Tree) (root : String) (o : Options) :
    alone t root c' o kind = alone t root c o kind := by
  have hdestination := h.destination_eq root
  rw [alone, alone, hdestination]
  cases kind with
  | component =>
      have hsource : c'.components = c.components := h.source
      rw [planFor, planFor, extractComponents, extractComponents, hsource, hdestination]
  | command =>
      have hsource : c'.commands = c.commands := h.source
      rw [planFor, planFor, extractCommands, extractCommands, hsource, hdestination,
        planCommands_shared hsource]
  | pattern =>
      have hsource : c'.patterns = c.patterns := h.source
      rw [planFor, planFor, extractPatterns, extractPatterns, hsource, hdestination]

end Shared

/-! ## Reports

What is said of a kind is told by the phase, and a phase is of one kind at most. -/

section Report

variable {o : Options} {d : RecordKind → Destination} {said : RecordKind → KindRun} {packages : Nat}

/-- What can be said of a kind from a fatal phase on is about that kind. -/
theorem kind?_of_isFatalFor {phase : Phase} {k : RecordKind} (h : phase.isFatalFor k = true) :
    phase.kind? = some k := by
  cases phase with
  | parseArgs => cases h
  | generate j => cases h
  | extract j | validate j | write j => exact congrArg some (eq_of_beq h)

/-- A list with something to say about every kind has nothing else to say about one of them. -/
theorem filter_on {α : Type} {said : RecordKind → List α} {kind? : α → Option RecordKind}
    (h : ∀ k, ∀ x ∈ said k, kind? x = some k) (k : RecordKind) :
    (RecordKind.all.flatMap said).filter (fun x => kind? x == some k) = said k := by
  rw [filter_flatMap_all]
  · exact List.filter_eq_self.mpr fun x hx => beq_iff_eq.mpr (h k x hx)
  · intro j hj x hx
    rw [h j x hx]
    exact beq_false_of_ne fun heq => hj (Option.some.inj heq)

theorem warningsOn_reportOfAll (k : RecordKind) :
    (reportOfAll o said packages).warningsOn k = (said k).warnings k := by
  have hunknown : (o.unknown.map fun a => (⟨.parseArgs, none, unknownMessage a⟩ : Warning)).filter
      (fun w => w.phase.kind? == some k) = [] := by
    refine List.filter_eq_nil_iff.mpr fun w hw => ?_
    obtain ⟨a, -, rfl⟩ := List.mem_map.mp hw
    exact Bool.false_ne_true
  rw [Report.warningsOn, warnings_reportOfAll, List.filter_append, hunknown, List.nil_append]
  refine @filter_on _ (fun k => (said k).warnings k) _ (fun j w hw => ?_) k
  obtain ⟨message, -, rfl⟩ := List.mem_map.mp hw
  rfl

theorem diagnosticsOn_reportOfAll (k : RecordKind) :
    (reportOfAll o said packages).diagnosticsOn k
      = (said k).diagnostics.map (Phase.extract k, ·) := by
  rw [Report.diagnosticsOn, diagnostics_reportOfAll]
  refine @filter_on _ (fun k => (said k).diagnostics.map (Phase.extract k, ·)) _
    (fun j x hx => ?_) k
  obtain ⟨finding, -, rfl⟩ := List.mem_map.mp hx
  rfl

theorem errorsOn_reportOfAll (hproper : ∀ k, (said k).Proper k o (d k)) (k : RecordKind) :
    (reportOfAll o said packages).errorsOn k = (said k).errors := by
  rw [Report.errorsOn, syncErrors_reportOfAll]
  exact filter_on (fun j e he => kind?_of_isFatalFor (mem_errors hproper he).2) k

theorem found_reportOfAll (k : RecordKind) :
    (reportOfAll o said packages).stats.found k = (said k).found := by
  cases k <;> rfl

/-- **Reports agree on a kind of which they are told the same.** -/
theorem agreeOn_reportOfAll {d' : RecordKind → Destination} {said' : RecordKind → KindRun}
    {packages' : Nat} {kind : RecordKind} (hproper : ∀ k, (said k).Proper k o (d k))
    (hproper' : ∀ k, (said' k).Proper k o (d' k))
    (h : (said' kind).spoken = (said kind).spoken)
    (hpackages : kind = .command → packages' = packages) :
    (reportOfAll o said packages).AgreeOn kind (reportOfAll o said' packages') := by
  -- each part of the report is a part of what this kind says, and that is the same in both
  refine ⟨?_, ?_, ?_, ?_, ?_, hpackages⟩
  · rw [found_reportOfAll, found_reportOfAll]
    show (said' kind).spoken.found = (said kind).spoken.found
    rw [h]
  · rw [filesOf_reportOfAll hproper, filesOf_reportOfAll hproper']
    show (said' kind).spoken.files = (said kind).spoken.files
    rw [h]
  · rw [warningsOn_reportOfAll, warningsOn_reportOfAll]
    show (said' kind).spoken.warnings kind = (said kind).spoken.warnings kind
    rw [h]
  · rw [diagnosticsOn_reportOfAll, diagnosticsOn_reportOfAll]
    refine congrArg (List.map (Phase.extract kind, ·)) ?_
    show (said' kind).spoken.diagnostics = (said kind).spoken.diagnostics
    rw [h]
  · rw [errorsOn_reportOfAll hproper, errorsOn_reportOfAll hproper']
    show (said' kind).spoken.errors = (said kind).spoken.errors
    rw [h]

end Report

/-! ## Runs

Each kind of a run stands in the report as if it had been alone, and alone it reads its own section
only. -/

theorem packageCount_shared {c c' : Config} (h : SharesKind .command c c') (t : Tree)
    (root : String) :
    packageCount (readReference t root c'.commands) (extractCommands t root c')
      = packageCount (readReference t root c.commands) (extractCommands t root c) := by
  have hsource : c'.commands = c.commands := h.source
  rw [extractCommands, extractCommands, hsource]

/-- **The other sections do not matter.** Where two configurations have the section of a kind in
common, the runs from one tree say the same of that kind, whatever the other sections are. Runs that
write need modules that are out of the way of each other. -/
theorem run_agreeOn (t : Tree) (root : String) (c c' : Config) (o : Options) (kind : RecordKind)
    (hshare : SharesKind kind c c') (h : Undisturbed t root c o) (h' : Undisturbed t root c' o) :
    (run t root c o).report.AgreeOn kind (run t root c' o).report := by
  rw [report_eq, report_eq, referenceOf_undisturbed h, referenceOf_undisturbed h']
  refine agreeOn_reportOfAll (stage_proper t root c o) (stage_proper t root c' o) ?_ ?_
  · rw [stage_alone h, stage_alone h', hshare.alone_eq]
  · rintro rfl
    exact packageCount_shared hshare t root

/-- In the small project the module of the components can go to another place. The runs write it before
they come to the commands and the patterns, and say the same of these. -/
theorem run_agreeOn_deeper :
    SharesKind .command (smallConfig "b.ts") (smallConfig "deep/er/b.ts")
      ∧ SharesKind .pattern (smallConfig "b.ts") (smallConfig "deep/er/b.ts")
      ∧ Undisturbed smallTree "/p" (smallConfig "b.ts") {}
      ∧ Undisturbed smallTree "/p" (smallConfig "deep/er/b.ts") {}
      ∧ (run smallTree "/p" (smallConfig "b.ts") {}).report.stats.filesGenerated
          = ["o/b.ts", "o/p.ts"]
      ∧ (run smallTree "/p" (smallConfig "deep/er/b.ts") {}).report.stats.filesGenerated
          = ["o/deep/er/b.ts", "o/p.ts"]
      ∧ (run smallTree "/p" (smallConfig "b.ts") {}).report.AgreeOn .command
          (run smallTree "/p" (smallConfig "deep/er/b.ts") {}).report
      ∧ (run smallTree "/p" (smallConfig "b.ts") {}).report.AgreeOn .pattern
          (run smallTree "/p" (smallConfig "deep/er/b.ts") {}).report := by
  have hcommand : SharesKind .command (smallConfig "b.ts") (smallConfig "deep/er/b.ts") :=
    ⟨rfl, rfl⟩
  have hpattern : SharesKind .pattern (smallConfig "b.ts") (smallConfig "deep/er/b.ts") :=
    ⟨rfl, rfl⟩
  have hsmall : Undisturbed smallTree "/p" (smallConfig "b.ts") {} :=
    Or.inr ⟨isProject_small, clear_small⟩
  have hdeeper : Undisturbed smallTree "/p" (smallConfig "deep/er/b.ts") {} :=
    Or.inr ⟨isProject_small, clear_deeper⟩
  exact ⟨hcommand, hpattern, hsmall, hdeeper, filesGenerated_small {}, filesGenerated_deeper {},
    run_agreeOn smallTree "/p" _ _ {} .command hcommand hsmall hdeeper,
    run_agreeOn smallTree "/p" _ _ {} .pattern hpattern hsmall hdeeper⟩

end Sync

end DocCatalog
