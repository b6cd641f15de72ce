import DocCatalog.CommandLine.Program
import DocCatalog.Proofs.CommandLine.Flags
import DocCatalog.Proofs.Sync.Accounting

/-!
# How the program answers

A call answers its flags, or it looks for a project, reads its configuration and synchronizes it. Each
of these can end the call, and only the last one touches the tree.

* **`NearestRoot`**, **`Rooted`**: the project of a working directory, in terms of the files that mark
  it.
* **`Configured`**, **`Rejected`**: what the settings file of a project comes to.
* **`Reports`**: the outcome of a call that has come to a run.
* **`Answers`**: the answer of a call in every case.
* **`call_answers`**: every call answers like that.
-/

namespace DocCatalog

/-! ## Projects

The project of a working directory is the nearest directory above it, or itself, that has a settings
file or marks a workspace. -/

namespace Project

/-- There is a file in the directory that marks it as the root of a project. -/
def Rooted (t : Tree) (directory : String) : Prop :=
  t.isFile (Path.join directory "mcp-sync.toml") = true
    ∨ t.isFile (Path.join directory "pnpm-workspace.yaml") = true

theorem isRoot_iff {t : Tree} {directory : String} : isRoot t directory = true ↔ Rooted t directory := by
  simp [isRoot, markers, settingsFile, Rooted]

/-- The nearest root of a project at or above a path. -/
def NearestRoot (t : Tree) (start root : String) : Prop :=
  ∃ nearer farther, Path.ancestors start = nearer ++ root :: farther
    ∧ Rooted t root ∧ ∀ directory ∈ nearer, ¬ Rooted t directory

theorem findRoot?_eq_none {t : Tree} {start : String} :
    findRoot? t start = none ↔ ∀ directory ∈ Path.ancestors start, ¬ Rooted t directory := by
  rw [findRoot?, List.find?_eq_none]
  simp only [isRoot_iff]

/-- **It finds the nearest one.** -/
theorem findRoot?_eq_some {t : Tree} {start root : String} :
    findRoot? t start = some root ↔ NearestRoot t start root := by
  rw [findRoot?, List.find?_eq_some_iff_append]
  constructor
  · rintro ⟨hroot, nearer, farther, hsplit, hnearer⟩
    refine ⟨nearer, farther, hsplit, isRoot_iff.mp hroot, fun directory hmem hrooted => ?_⟩
    have hunmarked := hnearer directory hmem
    rw [isRoot_iff.mpr hrooted] at hunmarked
    cases hunmarked
  · rintro ⟨nearer, farther, hsplit, hroot, hnearer⟩
    refine ⟨isRoot_iff.mpr hroot, nearer, farther, hsplit, fun directory hmem => ?_⟩
    rw [Bool.not_eq_true', Bool.eq_false_iff]
    exact fun hmarked => hnearer directory hmem (isRoot_iff.mp hmarked)

/-! ## Configurations

Without a settings file the settings are the usual ones. With one they are what can be read and
decoded, and a file that cannot is rejected. -/

/-- The configuration of a project: the standard one, or what its settings file says. -/
inductive Configured (t : Tree) (root : String) : Config → Prop
  | standard (h : t.isFile (Path.join root "mcp-sync.toml") = false) : Configured t root .standard
  | read {text : String} {c : Config} (hfile : t.isFile (Path.join root "mcp-sync.toml") = true)
      (hread : t.readText (Path.join root "mcp-sync.toml") = .ok text)
      (hdecode : Config.ofText text = .ok c) : Configured t root c

/-- There is a settings file, but it is no text, or the text describes no configuration. -/
inductive Rejected (t : Tree) (root : String) : Prop
  | unread {e : FileError} (hfile : t.isFile (Path.join root "mcp-sync.toml") = true)
      (hread : t.readText (Path.join root "mcp-sync.toml") = .error e)
  | invalid {text : String} {problem : Config.Problem}
      (hfile : t.isFile (Path.join root "mcp-sync.toml") = true)
      (hread : t.readText (Path.join root "mcp-sync.toml") = .ok text)
      (hdecode : Config.ofText text = .error problem)

/-- What a project is configured with is loaded. -/
theorem Configured.load {t : Tree} {root : String} {c : Config} (h : Configured t root c) :
    load t root = .ok c := by
  cases h with
  | standard h => simp [Project.load, settingsFile, h]
  | read hfile hread hdecode => simp [Project.load, settingsFile, hfile, hread, hdecode, Except.mapError]

/-- What is rejected gives an error. -/
theorem Rejected.load {t : Tree} {root : String} (h : Rejected t root) :
    ∃ e, load t root = .error e := by
  cases h with
  | unread hfile hread => simp [Project.load, settingsFile, hfile, hread]
  | invalid hfile hread hdecode =>
      simp [Project.load, settingsFile, hfile, hread, hdecode, Except.mapError]

/-- The settings file of a project is accepted or rejected. -/
theorem configured_or_rejected (t : Tree) (root : String) :
    (∃ c, Configured t root c) ∨ Rejected t root := by
  cases hfile : t.isFile (Path.join root "mcp-sync.toml") with
  | false => exact Or.inl ⟨_, .standard hfile⟩
  | true =>
      cases hread : t.readText (Path.join root "mcp-sync.toml") with
      | error e => exact Or.inr (.unread hfile hread)
      | ok text =>
          cases hdecode : Config.ofText text with
          | error problem => exact Or.inr (.invalid hfile hread hdecode)
          | ok c => exact Or.inl ⟨c, .read hfile hread hdecode⟩

end Project

/-! ## Reports

A report has errors if there are diagnostics of this severity, or errors of the run itself. -/

/-- A run has succeeded if there is neither. -/
theorem Report.hasErrors_eq_false {r : Report} :
    r.hasErrors = false ↔ (∀ d ∈ r.diagnostics, d.2.severity ≠ .error) ∧ r.syncErrors = [] := by
  unfold Report.hasErrors Report.findings
  rw [Bool.or_eq_false_iff, Bool.not_eq_false', Bool.not_eq_false', List.isEmpty_iff,
    List.isEmpty_iff, List.filter_eq_nil_iff, and_comm]
  simp

/-- The files that a run changes are modules that its report says are written. -/
theorem Sync.changed_run (t : Tree) (root : String) (c : Config) (o : Sync.Options) {p : Place}
    (hchanged : (Sync.run t root c o).tree.fileAt? p ≠ t.fileAt? p) :
    ∃ f ∈ (Sync.run t root c o).report.files,
      f.written = true ∧ p = Path.placeOf (Path.join root f.path) := by
  by_cases hwritten : ∃ k, writtenBy t root c o k p
  · obtain ⟨k, hplace, hwrite, f, hf⟩ := hwritten
    obtain ⟨-, hpath, hwritten⟩ := (stage_proper t root c o k).generated f hf
    refine ⟨f, ?_, ?_, ?_⟩
    · rw [report_eq, files_reportOfAll]
      refine List.mem_flatMap.mpr ⟨k, by cases k <;> decide, ?_⟩
      simp [KindRun.files, hf]
    · rw [hwritten, hwrite]
      rfl
    · rw [hplace, hpath]
      rfl
  · refine absurd ?_ hchanged
    rw [(run_eq t root c o).2]
    exact (extends_stages (stage_extends t root c o)).fileAt hwritten

namespace CommandLine

/-! ## Calls

A call that asks for something harmless goes on to look for the project. Each of the steps can be
the last one. -/

/-- What a run is asked for by the arguments of a call. -/
def optionsOf (arguments : List String) : Sync.Options where
  dryRun := (flagsOf arguments).contains .dryRun
  verbose := (flagsOf arguments).contains .verbose
  unknown := unknownOf arguments

/-- The outcome of a call that has come to a run: the report is printed, the exit code says whether
there is an error in it, and the files that have changed are those that it says are written. -/
structure Reports (t : Tree) (root : String) (result : Sync.RunResult) (r : Outcome) : Prop where
  stdout : r.stdout = result.report.render
  exitCode : r.exitCode = 0 ∨ r.exitCode = 1
  success : r.exitCode = 0 ↔
    (∀ d ∈ result.report.diagnostics, d.2.severity ≠ .error) ∧ result.report.syncErrors = []
  tree : r.tree = result.tree
  changed : ∀ p, r.tree.fileAt? p ≠ t.fileAt? p →
    ∃ f ∈ result.report.files, f.written = true ∧ p = Path.placeOf (Path.join root f.path)

/-- How a call is answered. -/
structure Answers (t : Tree) (workingDirectory : String) (arguments : List String) (r : Outcome) :
    Prop where
  told : AsksForText (flagsOf arguments) → r.exitCode = 0 ∧ r.tree = t
  refused : Repeats (flagsOf arguments) → r.exitCode = 1 ∧ r.tree = t
  homeless : Harmless (flagsOf arguments) →
    (∀ directory ∈ Path.ancestors workingDirectory, ¬ Project.Rooted t directory) →
      r.exitCode = 1 ∧ r.stdout = "" ∧ r.tree = t
  misconfigured : Harmless (flagsOf arguments) →
    ∀ root, Project.NearestRoot t workingDirectory root → Project.Rejected t root →
      r.exitCode = 1 ∧ r.stdout = "" ∧ r.tree = t
  synchronized : Harmless (flagsOf arguments) →
    ∀ root c, Project.NearestRoot t workingDirectory root → Project.Configured t root c →
      Reports t root (Sync.run t root c (optionsOf arguments)) r
  /-- There is no further case. -/
  complete : AsksForText (flagsOf arguments) ∨ Repeats (flagsOf arguments)
    ∨ Harmless (flagsOf arguments)
      ∧ ((∀ directory ∈ Path.ancestors workingDirectory, ¬ Project.Rooted t directory)
        ∨ ∃ root, Project.NearestRoot t workingDirectory root
          ∧ (Project.Rejected t root ∨ ∃ c, Project.Configured t root c))

section

variable {t : Tree} {workingDirectory : String} {arguments : List String}

/-- Without settings the program says why, and ends. -/
theorem call_of_refusal (t : Tree) (workingDirectory : String) {e : Refusal}
    (h : parseFlags (partitionArguments arguments).1 = .error e) :
    (call t workingDirectory arguments).exitCode = (if e.isMistake then 1 else 0)
      ∧ (call t workingDirectory arguments).tree = t := by
  unfold call
  simp only [h]
  split <;> exact ⟨rfl, rfl⟩

theorem call_of_harmless (h : Harmless (flagsOf arguments)) :
    call t workingDirectory arguments
      = synchronize t workingDirectory (settingsOf (flagsOf arguments)) (unknownOf arguments) := by
  unfold call
  simp only [parseFlags_harmless h, partitionArguments_snd]

/-- **Without a project** it fails and does nothing. -/
theorem synchronize_homeless (s : Settings) (unknown : List String)
    (h : ∀ directory ∈ Path.ancestors workingDirectory, ¬ Project.Rooted t directory) :
    (synchronize t workingDirectory s unknown).exitCode = 1
      ∧ (synchronize t workingDirectory s unknown).stdout = ""
      ∧ (synchronize t workingDirectory s unknown).tree = t := by
  unfold synchronize
  rw [Project.findRoot?_eq_none.mpr h]
  exact ⟨rfl, rfl, rfl⟩

/-- **With settings that are rejected** it fails and does nothing. -/
theorem synchronize_misconfigured (s : Settings) (unknown : List String) {root : String}
    (hroot : Project.NearestRoot t workingDirectory root) (hrejected : Project.Rejected t root) :
    (synchronize t workingDirectory s unknown).exitCode = 1
      ∧ (synchronize t workingDirectory s unknown).stdout = ""
      ∧ (synchronize t workingDirectory s unknown).tree = t := by
  obtain ⟨e, hload⟩ := hrejected.load
  unfold synchronize
  rw [Project.findRoot?_eq_some.mpr hroot]
  simp only [hload]
  exact ⟨rfl, rfl, rfl⟩

/-- Whatever a run has done is reported like that. -/
theorem reports_of_result {root : String} {result : Sync.RunResult} {r : Outcome}
    (hexit : r.exitCode = if result.report.hasErrors then 1 else 0)
    (hstdout : r.stdout = result.report.render) (htree : r.tree = result.tree)
    (hchanged : ∀ p, result.tree.fileAt? p ≠ t.fileAt? p →
      ∃ f ∈ result.report.files, f.written = true ∧ p = Path.placeOf (Path.join root f.path)) :
    Reports t root result r where
  stdout := hstdout
  tree := htree
  changed := by
    rw [htree]
    exact hchanged
  exitCode := by
    cases herrors : result.report.hasErrors with
    | true => exact Or.inr (by simp [hexit, herrors])
    | false => exact Or.inl (by simp [hexit, herrors])
  success := by
    rw [← Report.hasErrors_eq_false]
    cases herrors : result.report.hasErrors with
    | true => simp [hexit, herrors]
    | false => simp [hexit, herrors]

/-- **With a project and its settings** it answers with the report of the run. -/
theorem synchronize_configured (s : Settings) (unknown : List String) {root : String} {c : Config}
    (hroot : Project.NearestRoot t workingDirectory root) (hconfigured : Project.Configured t root c) :
    let result := Sync.run t root c ⟨s.dryRun, s.verbose, unknown⟩
    (synchronize t workingDirectory s unknown).exitCode = (if result.report.hasErrors then 1 else 0)
      ∧ (synchronize t workingDirectory s unknown).stdout = result.report.render
      ∧ (synchronize t workingDirectory s unknown).tree = result.tree := by
  unfold synchronize
  rw [Project.findRoot?_eq_some.mpr hroot]
  simp only [hconfigured.load]
  exact ⟨trivial, trivial, trivial⟩

end

/-- **Every call is answered**, in exactly the way that its flags, the tree and the settings file ask
for. -/
theorem call_answers (t : Tree) (workingDirectory : String) (arguments : List String) :
    Answers t workingDirectory arguments (call t workingDirectory arguments) where
  told h := by
    obtain ⟨e, hparse, hmistake⟩ := parseFlags_asksForText h
    obtain ⟨hexit, htree⟩ := call_of_refusal t workingDirectory hparse
    rw [hmistake] at hexit
    exact ⟨hexit, htree⟩
  refused h := by
    obtain ⟨e, hparse, hmistake⟩ := parseFlags_repeats h
    obtain ⟨hexit, htree⟩ := call_of_refusal t workingDirectory hparse
    rw [hmistake] at hexit
    exact ⟨hexit, htree⟩
  homeless h hnone := by
    rw [call_of_harmless h]
    exact synchronize_homeless _ _ hnone
  misconfigured h root hroot hrejected := by
    rw [call_of_harmless h]
    exact synchronize_misconfigured _ _ hroot hrejected
  synchronized h root c hroot hconfigured := by
    rw [call_of_harmless h]
    obtain ⟨hexit, hstdout, htree⟩ := synchronize_configured (settingsOf (flagsOf arguments))
      (unknownOf arguments) hroot hconfigured
    exact reports_of_result hexit hstdout htree fun _ => Sync.changed_run t root c _
  -- no other case is left: the flags come to one of three, and harmless ones find a project or not
  complete := by
    rcases flags_cases (flagsOf arguments) with hharmless | hasks | hrepeats
    · refine Or.inr (Or.inr ⟨hharmless, ?_⟩)
      cases hfind : Project.findRoot? t workingDirectory with
      | none => exact Or.inl (Project.findRoot?_eq_none.mp hfind)
      | some root =>
          exact Or.inr ⟨root, Project.findRoot?_eq_some.mp hfind,
            (Project.configured_or_rejected t root).symm⟩
    · exact Or.inl hasks
    · exact Or.inr (Or.inl hrepeats)

/-- A workspace without a settings file, and a directory in it. -/
def workspaceTree : Tree where
  entries := [(["w"], .directory), (["w", "pnpm-workspace.yaml"], .file ⟨.text "", Tree.newFileMode⟩),
    (["w", "d"], .directory)]

/-- A project that is marked as a workspace only, from a directory below, with an argument that is
not known. -/
theorem call_answers_workspace :
    Project.NearestRoot workspaceTree "/w/d" "/w" ∧ Project.Configured workspaceTree "/w" .standard
      ∧ Harmless (flagsOf ["mcp-sync", "--dry-run", "-x", "-v"])
      ∧ Reports workspaceTree "/w" (Sync.run workspaceTree "/w" .standard ⟨true, true, ["-x"]⟩)
          (call workspaceTree "/w/d" ["mcp-sync", "--dry-run", "-x", "-v"]) := by
  have hroot : Project.NearestRoot workspaceTree "/w/d" "/w" := by
    refine ⟨["/w/d"], ["/"], by decide, Or.inr (by decide), fun directory hmem => ?_⟩
    rw [List.mem_singleton.mp hmem, ← Project.isRoot_iff]
    decide
  have hconfigured : Project.Configured workspaceTree "/w" .standard := .standard (by decide)
  have hflags : flagsOf ["mcp-sync", "--dry-run", "-x", "-v"] = [.dryRun, .verbose] := by decide
  have hharmless : Harmless (flagsOf ["mcp-sync", "--dry-run", "-x", "-v"]) := by
    rw [hflags]
    exact ⟨by decide, by decide⟩
  have hoptions : optionsOf ["mcp-sync", "--dry-run", "-x", "-v"] = ⟨true, true, ["-x"]⟩ := by
    decide
  have hreports := (call_answers workspaceTree "/w/d" ["mcp-sync", "--dry-run", "-x", "-v"]).synchronized
    hharmless "/w" .standard hroot hconfigured
  rw [hoptions] at hreports
  exact ⟨hroot, hconfigured, hharmless, hreports⟩

end CommandLine

end DocCatalog
