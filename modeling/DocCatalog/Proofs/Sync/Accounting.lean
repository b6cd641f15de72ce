import DocCatalog.Proofs.Sync.Frame
import DocCatalog.Proofs.Sync.Generated

/-!
# What a run answers for

The report of a run says of each kind what became of it, and of each file that has changed who
changed it.

* **`Report.filesOf`**, **`Report.leftOf`**, **`Report.failuresOf`**: the three ways in which a
  report can speak of a kind.
* **`Accounts`**: every kind has ended in one of these ways, and the files of the tree are what the
  report says.
* **`run_accounts`**: a run accounts for what it does.
-/

namespace DocCatalog

/-- Whether a warning is about a module that was left as it was. -/
def Warning.saysLeft (w : Warning) : Bool :=
  " left untouched".toList.isSuffixOf w.message.toList

/-- Whether a kind fails as a whole when it fails in the phase. -/
def Phase.isFatalFor (kind : RecordKind) : Phase → Bool
  | .extract k | .validate k | .write k => k == kind
  | .parseArgs | .generate _ => false

namespace Report

/-- The files of one kind that were generated. -/
def filesOf (r : Report) (kind : RecordKind) : List FileOutcome :=
  r.files.filter (·.kind == kind)

/-- The warnings that say that the module of a kind was left as it was. -/
def leftOf (r : Report) (kind : RecordKind) : List Warning :=
  r.warnings.filter fun w => w.phase == .generate kind && w.saysLeft

/-- The errors for which a kind has no module. -/
def failuresOf (r : Report) (kind : RecordKind) : List SyncError :=
  r.syncErrors.filter (·.phase.isFatalFor kind)

end Report

namespace Sync

/-! ## Messages

A warning about a record never ends as one about a module does. -/

/-- The last character of a message is that of its last part. -/
theorem getLast?_append_of_ne_nil (a : List Char) {b : List Char} (h : b ≠ []) :
    (a ++ b).getLast? = b.getLast? := by
  rw [List.getLast?_append, Option.or_of_isSome]
  exact List.getLast?_isSome.mpr h

/-- A message that says so ends with this letter. -/
theorem getLast?_of_saysLeft {w : Warning} (h : w.saysLeft = true) :
    w.message.toList.getLast? = some 'd' := by
  obtain ⟨start, hstart⟩ := List.isSuffixOf_iff_suffix.mp h
  have hne : " left untouched".toList ≠ [] := by decide
  have hd : " left untouched".toList.getLast? = some 'd' := by decide
  rw [← hstart]
  exact (getLast?_append_of_ne_nil start hne).trans hd

/-- The message about a module says so, whatever the reason. -/
theorem saysLeft_leftMessage (phase : Phase) (location : Option String) (d : Destination)
    (reason : String) :
    (Warning.mk phase location (Kind.leftMessage d reason)).saysLeft = true := by
  refine List.isSuffixOf_iff_suffix.mpr ⟨(reason ++ "; " ++ d.path).toList, ?_⟩
  exact String.toList_append.symm

/-- No reason for leaving out a record ends with this letter. -/
theorem getLast?_reason_ne (key : String) (e : Emit.Exclusion) :
    (e.reason key).toList.getLast? ≠ some 'd' ∧ (e.reason key).toList ≠ [] := by
  have hlast : ∀ (start : String) {rest : String}, rest.toList ≠ [] →
      rest.toList.getLast? ≠ some 'd' →
      (start ++ rest).toList.getLast? ≠ some 'd' ∧ (start ++ rest).toList ≠ [] := by
    intro start rest hne hd
    rw [String.toList_append, getLast?_append_of_ne_nil _ hne]
    exact ⟨hd, List.append_ne_nil_of_right_ne_nil _ hne⟩
  cases e with
  | invalidKey => exact hlast _ (by decide) (by decide)
  | emptyField field => exact hlast _ (by decide) (by decide)
  | duplicateKey => exact hlast _ (by decide) (by decide)

theorem saysLeft_exclusionMessage {ρ : Type} [Catalogued ρ] (phase : Phase) (r : ρ)
    (e : Emit.Exclusion) :
    (Warning.mk phase none (Emit.exclusionMessage r e)).saysLeft = false := by
  obtain ⟨hlast, hne⟩ := getLast?_reason_ne (Catalogued.key r) e
  have hmessage : (Emit.exclusionMessage r e).toList.getLast?
      = (e.reason (Catalogued.key r)).toList.getLast? := by
    delta Emit.exclusionMessage
    rw [String.toList_append]
    exact getLast?_append_of_ne_nil _ hne
  rw [Bool.eq_false_iff]
  intro h
  have hd := getLast?_of_saysLeft h
  rw [hmessage] at hd
  exact hlast hd

/-! ## Plans

What is planned for a kind fails in a phase of this kind only, and leaves a module with a message of
the right form only. -/

/-- What the report may say of a kind before its module is written. -/
structure Plan.Proper (kind : RecordKind) (d : Destination) (p : Plan) : Prop where
  fails : ∀ e, p.todo = .fail e → e.phase = .extract kind ∨ e.phase = .validate kind
  leaves : ∀ message, p.todo = .leave message → ∃ reason, message = Kind.leftMessage d reason
  excludes : ∀ message ∈ p.exclusions, ∀ phase, (Warning.mk phase none message).saysLeft = false

/-- What is to become of the records of a kind. -/
theorem Kind.todoOf_proper {ρ : Type} [Catalogued ρ] (g : Emit.Generator ρ) (d : Destination)
    (records : List ρ) :
    (∀ e, todoOf g d records = .fail e → e.phase = .validate (Catalogued.kind ρ))
      ∧ ∀ message, todoOf g d records = .leave message →
          ∃ reason, message = leftMessage d reason := by
  unfold todoOf
  simp only
  split
  · exact ⟨fun _ h => (nomatch h), fun _ h => ⟨_, (Todo.leave.inj h).symm⟩⟩
  · split
    · exact ⟨fun _ h => (nomatch h), fun _ h => ⟨_, (Todo.leave.inj h).symm⟩⟩
    · split
      · refine ⟨?_, fun _ h => (nomatch h)⟩
        intro e h
        rw [← Todo.fail.inj h]
      · exact ⟨fun _ h => (nomatch h), fun _ h => (nomatch h)⟩

theorem Kind.planOf_proper {ρ : Type} [Catalogued ρ] (g : Emit.Generator ρ) (d : Destination)
    (extracted : Except Extract.DiscoverError (Extract.Extraction ρ)) :
    (planOf g d extracted).Proper (Catalogued.kind ρ) d := by
  cases extracted with
  | error e =>
      refine ⟨?_, fun _ h => (nomatch h), fun _ h => (nomatch h)⟩
      intro e' h
      rw [← Todo.fail.inj h]
      exact Or.inl rfl
  | ok e =>
      obtain ⟨hfail, hleave⟩ := todoOf_proper g d e.records
      refine ⟨fun e' h => Or.inr (hfail e' h), hleave, ?_⟩
      intro message hmem phase
      simp only [planOf] at hmem
      split at hmem
      · cases hmem
      · obtain ⟨⟨r, exclusion⟩, -, hmessage⟩ := List.mem_filterMap.mp hmem
        obtain ⟨reason, -, rfl⟩ := Option.map_eq_some_iff.mp hmessage
        exact saysLeft_exclusionMessage phase r reason

/-- **Every plan is proper**, whichever kind it is for. -/
theorem planFor_proper (t : Tree) (root : String) (c : Config) (r : ReferenceRun)
    (kind : RecordKind) : (planFor t root c r kind).Proper kind (destination root c kind) := by
  cases kind with
  | component => exact Kind.planOf_proper (ρ := ComponentRecord) _ _ _
  | pattern => exact Kind.planOf_proper (ρ := PatternRecord) _ _ _
  | command =>
      simp only [planFor]
      unfold planCommands
      split
      · exact Kind.planOf_proper (ρ := CommandRecord) _ _ _
      · simp only
        split
        · exact Kind.planOf_proper (ρ := CommandRecord) _ _ _
        · have h := Kind.planOf_proper
            (Emit.Commands.generator (c.commands.patterns ++ c.commands.reference.toList)
              r.reference.packages) (destination root c .command)
          exact ⟨(h _).fails, (h _).leaves, (h _).excludes⟩

/-! ## Reports

The report lists what the kinds have done one after the other, so that what it says of one kind is
what that kind has done. -/

/-- What is said of one kind is said by no other. -/
theorem filter_flatMap_all {α : Type} {said : RecordKind → List α} {q : α → Bool}
    {kind : RecordKind} (hother : ∀ k, k ≠ kind → ∀ x ∈ said k, q x = false) :
    (RecordKind.all.flatMap said).filter q = (said kind).filter q := by
  have hnil : ∀ k, k ≠ kind → (said k).filter q = [] := by
    intro k hk
    refine List.filter_eq_nil_iff.mpr fun x hx => ?_
    rw [hother k hk x hx]
    exact Bool.false_ne_true
  rw [List.filter_flatMap]
  cases kind <;>
    simp [RecordKind.all, hnil .component, hnil .command, hnil .pattern]

/-- A phase is fatal for one kind. -/
theorem isFatalFor_of_ne {phase : Phase} {j k : RecordKind} (h : phase.isFatalFor j = true)
    (hne : j ≠ k) : phase.isFatalFor k = false := by
  cases phase with
  | parseArgs => rfl
  | generate kind => rfl
  | extract kind | validate kind | write kind =>
      have hkind : kind = j := eq_of_beq h
      rw [hkind]
      exact beq_false_of_ne hne

/-- A kind run as it can be: it speaks of its own kind and its own module only. -/
structure KindRun.Proper (kind : RecordKind) (o : Options) (d : Destination) (k : KindRun) :
    Prop where
  generated : ∀ f, k.ending = .generated f → f.kind = kind ∧ f.path = d.path ∧ f.written = !o.dryRun
  failed : ∀ e, k.ending = .failed e → e.phase.isFatalFor kind = true
  untouched : ∀ message, k.ending = .untouched message →
    ∃ reason, message = Kind.leftMessage d reason
  excludes : ∀ message ∈ k.exclusions, ∀ phase, (Warning.mk phase none message).saysLeft = false

/-- A proper plan is carried out properly, and writing fails in the phase of writing. -/
theorem Plan.Proper.run {kind : RecordKind} {d : Destination} {p : Plan} (h : p.Proper kind d)
    (o : Options) (t : Tree) : (p.run kind o d t).Proper kind o d := by
  refine ⟨?_, ?_, ?_, h.excludes⟩
  · intro f hf
    obtain ⟨⟨m, -, rfl⟩, -⟩ := perform_generated hf
    exact ⟨rfl, rfl, rfl⟩
  · intro e he
    rcases perform_failed he with htodo | ⟨cause, rfl⟩
    · rcases h.fails e htodo with hphase | hphase <;> simp [hphase, Phase.isFatalFor]
    · simp [writeFailure, Phase.isFatalFor]
  · intro message hmessage
    exact h.leaves message (perform_untouched hmessage)

/-- The warning that a module was left as it was, if it was. -/
def KindRun.left (kind : RecordKind) (k : KindRun) : List Warning :=
  match k.ending with
  | .untouched message => [⟨.generate kind, none, message⟩]
  | _ => []

/-- The warnings of a kind are those about records and, last, that about its module. -/
theorem KindRun.warnings_eq (kind : RecordKind) (k : KindRun) :
    k.warnings kind
      = (k.exclusions.map fun m => (⟨.generate kind, none, m⟩ : Warning)) ++ k.left kind := by
  unfold KindRun.warnings KindRun.left
  rw [List.map_append]
  cases k.ending <;> rfl

/-- A kind is spoken of once. -/
theorem KindRun.length_spoken (kind : RecordKind) (k : KindRun) :
    k.files.length + (k.left kind).length + k.errors.length = 1 := by
  unfold KindRun.files KindRun.left KindRun.errors
  cases k.ending <;> rfl

section Report

variable {o : Options} {d : RecordKind → Destination} {said : RecordKind → KindRun} {packages : Nat}

/-- The report of the three kinds. -/
def reportOfAll (o : Options) (said : RecordKind → KindRun) (packages : Nat) : Report :=
  reportOf o (said .component) (said .command) (said .pattern) packages

/-- The files of a report, kind by kind. -/
theorem files_reportOfAll :
    (reportOfAll o said packages).files = RecordKind.all.flatMap fun k => (said k).files := rfl

/-- The errors of a report, kind by kind. -/
theorem syncErrors_reportOfAll :
    (reportOfAll o said packages).syncErrors = RecordKind.all.flatMap fun k => (said k).errors := rfl

/-- The warnings of a report: those about arguments stand in front. -/
theorem warnings_reportOfAll :
    (reportOfAll o said packages).warnings
      = o.unknown.map (fun a => ⟨.parseArgs, none, unknownMessage a⟩)
        ++ RecordKind.all.flatMap fun k => (said k).warnings k := rfl

/-- The diagnostics of a report, each in the phase of its kind. -/
theorem diagnostics_reportOfAll :
    (reportOfAll o said packages).diagnostics
      = RecordKind.all.flatMap fun k => (said k).diagnostics.map (Phase.extract k, ·) := rfl

variable (hproper : ∀ k, (said k).Proper k o (d k))

include hproper

theorem mem_files {k : RecordKind} {f : FileOutcome} (h : f ∈ (said k).files) :
    (said k).ending = .generated f ∧ f.kind = k := by
  unfold KindRun.files at h
  split at h
  · next g hg =>
      rw [List.mem_singleton.mp h]
      exact ⟨hg, ((hproper k).generated g hg).1⟩
  · cases h

theorem mem_errors {k : RecordKind} {e : SyncError} (h : e ∈ (said k).errors) :
    (said k).ending = .failed e ∧ e.phase.isFatalFor k = true := by
  unfold KindRun.errors at h
  split at h
  · next g hg =>
      rw [List.mem_singleton.mp h]
      exact ⟨hg, (hproper k).failed g hg⟩
  · cases h

/-- **The files of a kind** in the report are those that it has generated. -/
theorem filesOf_reportOfAll (k : RecordKind) :
    (reportOfAll o said packages).filesOf k = (said k).files := by
  rw [Report.filesOf, files_reportOfAll, filter_flatMap_all]
  · refine List.filter_eq_self.mpr fun f hf => ?_
    rw [(mem_files hproper hf).2]
    exact beq_self_eq_true k
  · intro other hother f hf
    rw [(mem_files hproper hf).2]
    exact beq_false_of_ne hother

/-- **The errors of a kind** in the report are those by which it has failed. -/
theorem failuresOf_reportOfAll (k : RecordKind) :
    (reportOfAll o said packages).failuresOf k = (said k).errors := by
  rw [Report.failuresOf, syncErrors_reportOfAll, filter_flatMap_all]
  · exact List.filter_eq_self.mpr fun e he => (mem_errors hproper he).2
  · intro other hother e he
    exact isFatalFor_of_ne (mem_errors hproper he).2 hother

/-- That a module was left is said in one form. -/
theorem saysLeft_of_mem_left {k : RecordKind} {w : Warning} (h : w ∈ (said k).left k) :
    ∃ reason, w = ⟨.generate k, none, Kind.leftMessage (d k) reason⟩ := by
  unfold KindRun.left at h
  split at h
  · next message hmessage =>
      obtain ⟨reason, rfl⟩ := (hproper k).untouched message hmessage
      exact ⟨reason, List.mem_singleton.mp h⟩
  · cases h

/-- Of the warnings of a kind only the last one can be about its module. -/
theorem filter_saysLeft_warnings (k : RecordKind) :
    ((said k).warnings k).filter (fun w => w.phase == .generate k && w.saysLeft)
      = (said k).left k := by
  have hexclusions : ((said k).exclusions.map fun m => (⟨.generate k, none, m⟩ : Warning)).filter
      (fun w => w.phase == .generate k && w.saysLeft) = [] := by
    refine List.filter_eq_nil_iff.mpr fun w hw => ?_
    obtain ⟨message, hmem, rfl⟩ := List.mem_map.mp hw
    rw [(hproper k).excludes message hmem, Bool.and_false]
    exact Bool.false_ne_true
  rw [KindRun.warnings_eq, List.filter_append, hexclusions, List.nil_append]
  refine List.filter_eq_self.mpr fun w hw => ?_
  obtain ⟨reason, rfl⟩ := saysLeft_of_mem_left hproper hw
  rw [saysLeft_leftMessage, Bool.and_true]
  exact beq_self_eq_true _

/-- **That a module was left** is said in the report where the kind has said it. -/
theorem leftOf_reportOfAll (k : RecordKind) :
    (reportOfAll o said packages).leftOf k = (said k).left k := by
  have hunknown : (o.unknown.map fun a => (⟨.parseArgs, none, unknownMessage a⟩ : Warning)).filter
      (fun w => w.phase == .generate k && w.saysLeft) = [] := by
    refine List.filter_eq_nil_iff.mpr fun w hw => ?_
    obtain ⟨a, -, rfl⟩ := List.mem_map.mp hw
    exact Bool.false_ne_true
  rw [Report.leftOf, warnings_reportOfAll, List.filter_append, hunknown, List.nil_append,
    filter_flatMap_all, filter_saysLeft_warnings hproper]
  intro other hother w hw
  obtain ⟨message, -, rfl⟩ := List.mem_map.mp hw
  have hphase : (Phase.generate other == Phase.generate k) = false :=
    beq_false_of_ne fun h => hother (Phase.generate.inj h)
  rw [hphase, Bool.false_and]

end Report

/-! ## Runs

A run does for every kind what is planned, one after the other, and reports it. -/

/-- What the result of a run says about each kind, and how it bears out what the tree has become. -/
structure Accounts (t : Tree) (root : String) (c : Config) (o : Options) (r : RunResult) :
    Prop where
  /-- Every kind ends with a file, with a warning that its module was left, or with an error. -/
  ending : ∀ k, (r.report.filesOf k).length + (r.report.leftOf k).length
    + (r.report.failuresOf k).length = 1
  files : ∀ f ∈ r.report.files,
    f.path = (destination root c f.kind).path ∧ f.written = !o.dryRun
  left : ∀ k, ∀ w ∈ r.report.leftOf k,
    ∃ reason, w.message = Kind.leftMessage (destination root c k) reason
  failures : ∀ e ∈ r.report.syncErrors, ∃ k, e ∈ r.report.failuresOf k
  /-- A file that was written has the code as its content, and the mode of the file before it. -/
  written : o.dryRun = false → ∀ f ∈ r.report.files,
    r.tree.fileAt? (outputPlace root c f.kind)
      = some ⟨.text f.code, t.modeAt (outputPlace root c f.kind)⟩
  /-- Only files that were written have changed. -/
  changed : ∀ p, r.tree.fileAt? p ≠ t.fileAt? p →
    o.dryRun = false ∧ ∃ f ∈ r.report.files, p = outputPlace root c f.kind
  /-- A module that was left, or that an error kept from being written, is what it was. -/
  kept : ∀ k, r.report.leftOf k ≠ [] ∨ r.report.failuresOf k ≠ [] →
    r.tree.fileAt? (outputPlace root c k) = t.fileAt? (outputPlace root c k)
  /-- Every file was there before or is a module that was written, so no temporary file is left. -/
  noLeftover : ∀ p, r.tree.fileAt? p ≠ none → t.fileAt? p ≠ none
    ∨ o.dryRun = false ∧ ∃ f ∈ r.report.files, p = outputPlace root c f.kind
  dry : o.dryRun = true → r.tree = t

/-- Each kind is run properly. -/
theorem stage_proper (t : Tree) (root : String) (c : Config) (o : Options) (k : RecordKind) :
    (stage (stepOf t root c o) t k).Proper k o (destination root c k) :=
  (planFor_proper t root c _ k).run o _

/-- The report is made of these runs. -/
theorem report_eq (t : Tree) (root : String) (c : Config) (o : Options) :
    (run t root c o).report
      = reportOfAll o (stage (stepOf t root c o) t)
          (packageCount (referenceOf t root c o) (extractCommands t root c)) :=
  (run_eq t root c o).1

/-- The errors for which a kind failed are those of its stage. -/
theorem failuresOf_run (t : Tree) (root : String) (c : Config) (o : Options) (k : RecordKind) :
    (run t root c o).report.failuresOf k = (stage (stepOf t root c o) t k).errors := by
  rw [report_eq, failuresOf_reportOfAll (stage_proper t root c o)]

/-- The tree does not change when nothing is written. -/
theorem tree_of_dryRun {o : Options} (hdry : o.dryRun = true) (t : Tree) (root : String)
    (c : Config) : (run t root c o).tree = t := by
  have hstage : ∀ (t' : Tree) (k : RecordKind), (stepOf t root c o k t').tree = t' :=
    fun t' _ => perform_tree_of_dry hdry _
  rw [(run_eq t root c o).2]
  simp only [stage, before, hstage]

section Accounts

variable {t : Tree} {root : String} {c : Config} {o : Options}

/-- A module that was written is in its place when the run is over: the kinds behind it write
elsewhere. -/
theorem fileAt?_of_generated (apart : OutputsApart root c) (hwrite : o.dryRun = false)
    {k : RecordKind} {f : FileOutcome}
    (hf : (stage (stepOf t root c o) t k).ending = .generated f) :
    (run t root c o).tree.fileAt? (outputPlace root c k)
      = some ⟨.text f.code, t.modeAt (outputPlace root c k)⟩ := by
  have helsewhere : ¬ ∃ j, j ≠ k ∧ writtenBy t root c o j (outputPlace root c k) := by
    rintro ⟨j, hj, hplace, -⟩
    exact apart k j hj.symm hplace
  -- so the file is the same before the stage as at the beginning, and behind it as at the end
  have hbefore := (extends_before (stage_extends t root c o) k).fileAt helsewhere
  have hafter := (extends_after (stage_extends t root c o) k).fileAt helsewhere
  have hput := (perform_generated hf).2 hwrite
  have hmode : (before (stepOf t root c o) t k).modeAt (outputPlace root c k)
      = t.modeAt (outputPlace root c k) := by
    rw [Tree.modeAt, hbefore, Tree.modeAt]
  rw [(run_eq t root c o).2, hafter, Tree.fileAt?_eq_some, ← hmode]
  exact hput

/-- A module that was not written is what it was. -/
theorem fileAt?_of_not_generated (apart : OutputsApart root c) {k : RecordKind}
    (h : ∀ f, (stage (stepOf t root c o) t k).ending ≠ .generated f) :
    (run t root c o).tree.fileAt? (outputPlace root c k) = t.fileAt? (outputPlace root c k) := by
  rw [(run_eq t root c o).2]
  refine (extends_stages (stage_extends t root c o)).fileAt ?_
  rintro ⟨j, hplace, -, f, hf⟩
  by_cases hj : j = k
  · subst hj
    exact h f hf
  · exact apart k j (Ne.symm hj) hplace

/-- **A run accounts for what it does.** -/
theorem run_accounts (t : Tree) (root : String) (c : Config) (o : Options)
    (apart : OutputsApart root c) : Accounts t root c o (run t root c o) := by
  have hproper := stage_proper t root c o
  have hreport := report_eq t root c o
  -- what the report says of a file is how the stage of its kind has ended
  have hfiles : ∀ f ∈ (run t root c o).report.files,
      (stage (stepOf t root c o) t f.kind).ending = .generated f := by
    intro f hf
    rw [hreport, files_reportOfAll] at hf
    obtain ⟨k, -, hmem⟩ := List.mem_flatMap.mp hf
    obtain ⟨hending, rfl⟩ := mem_files hproper hmem
    exact hending
  -- only stages change files
  have hchanged : ∀ p, (run t root c o).tree.fileAt? p ≠ t.fileAt? p →
      o.dryRun = false ∧ ∃ f ∈ (run t root c o).report.files, p = outputPlace root c f.kind := by
    intro p hp
    by_cases hwritten : ∃ k, writtenBy t root c o k p
    · obtain ⟨k, hplace, hwrite, f, hf⟩ := hwritten
      refine ⟨hwrite, f, ?_, ?_⟩
      · rw [hreport, files_reportOfAll]
        refine List.mem_flatMap.mpr ⟨k, by cases k <;> decide, ?_⟩
        simp [KindRun.files, hf]
      · rw [((hproper k).generated f hf).1, hplace]
    · refine absurd ?_ hp
      rw [(run_eq t root c o).2]
      exact (extends_stages (stage_extends t root c o)).fileAt hwritten
  refine ⟨?_, ?_, ?_, ?_, ?_, hchanged, ?_, ?_, ?_⟩
  · -- one of the three ways, since a kind has ended in one
    intro k
    rw [hreport, filesOf_reportOfAll hproper, leftOf_reportOfAll hproper,
      failuresOf_reportOfAll hproper]
    exact KindRun.length_spoken k _
  · intro f hf
    exact ((hproper _).generated f (hfiles f hf)).2
  · intro k w hw
    rw [hreport, leftOf_reportOfAll hproper] at hw
    obtain ⟨reason, rfl⟩ := saysLeft_of_mem_left hproper hw
    exact ⟨reason, rfl⟩
  · intro e he
    have hmem := he
    rw [hreport, syncErrors_reportOfAll] at hmem
    obtain ⟨k, -, hk⟩ := List.mem_flatMap.mp hmem
    exact ⟨k, List.mem_filter.mpr ⟨he, (mem_errors hproper hk).2⟩⟩
  · -- what was written is there still at the end
    intro hwrite f hf
    exact fileAt?_of_generated apart hwrite (hfiles f hf)
  · intro k hk
    refine fileAt?_of_not_generated apart fun f hf => ?_
    rw [hreport, leftOf_reportOfAll hproper, failuresOf_reportOfAll hproper] at hk
    simp [KindRun.left, KindRun.errors, hf] at hk
  · intro p hp
    by_cases hsame : (run t root c o).tree.fileAt? p = t.fileAt? p
    · exact Or.inl (hsame ▸ hp)
    · exact Or.inr (hchanged p hsame)
  · exact fun hdry => tree_of_dryRun hdry t root c

end Accounts

/-- In the small project two modules are written and the third one is left as it was. -/
theorem run_accounts_small :
    OutputsApart "/p" (smallConfig "b.ts")
      ∧ (run smallTree "/p" (smallConfig "b.ts") {}).report.stats.filesGenerated
          = ["o/b.ts", "o/p.ts"]
      ∧ Accounts smallTree "/p" (smallConfig "b.ts") {}
          (run smallTree "/p" (smallConfig "b.ts") {}) := by
  have apart : OutputsApart "/p" (smallConfig "b.ts") := clear_small.apart
  exact ⟨apart, filesGenerated_small {},
    run_accounts smallTree "/p" (smallConfig "b.ts") {} apart⟩

end Sync

end DocCatalog
