import DocCatalog.Sync.Run
import DocCatalog.Proofs.Files.Replacement

/-!
# What a run does, kind by kind

What a kind is going to do follows from what was extracted. The tree and the options come in only
when its module is written.

* **`Todo`**, **`Plan`**: what is to become of a module, and what else the report says of a kind.
* **`Kind.planOf`**, **`planFor`**: the plan of a kind.
* **`silent_sync`**: synchronizing a kind is performing its plan.
* **`stage`**: the kinds one after the other, each on the tree that the one before has left.
* **`run_eq`**: a run is its three stages.
-/

namespace DocCatalog.Sync

/-- What is to become of the module of a kind. -/
inductive Todo where
  | fail (error : SyncError)
  | leave (message : String)
  | write (m : Emit.GeneratedModule)

/-- What a kind brings into a run. -/
structure Plan where
  found : Nat := 0
  diagnostics : List Diagnostic := []
  exclusions : List String := []
  todo : Todo

/-- What is planned is done: on a dry run nothing is written, and a text that cannot be written is
an error. -/
def Todo.perform (kind : RecordKind) (o : Options) (d : Destination) (t : Tree) :
    Todo → Ending × Tree
  | .fail e => (.failed e, t)
  | .leave message => (.untouched message, t)
  | .write m => ((Kind.write kind o d m t).1, (Kind.write kind o d m t).2.1)

/-- What a kind did, but for what was told about it. -/
def Plan.run (kind : RecordKind) (o : Options) (d : Destination) (p : Plan) (t : Tree) :
    KindRun where
  found := p.found
  diagnostics := p.diagnostics
  exclusions := p.exclusions
  ending := (p.todo.perform kind o d t).1
  tree := (p.todo.perform kind o d t).2
  log := []

/-- What a kind did, without what was told about it. -/
def KindRun.silent (k : KindRun) : KindRun := { k with log := [] }

@[simp] theorem KindRun.silent_tree (k : KindRun) : k.silent.tree = k.tree := rfl

/-! ## One kind

The program decides and writes in one go, kind by kind. Here the two are taken apart, and it is
shown that they come to the same, but for the log. -/

namespace Kind

variable {ρ : Type} [Catalogued ρ]

/-- The message about a module that is not written. -/
def leftMessage (d : Destination) (reason : String) : String :=
  reason ++ "; " ++ d.path ++ " left untouched"

/-- What is to become of the module of the given records. -/
def todoOf (g : Emit.Generator ρ) (d : Destination) (records : List ρ) : Todo :=
  let kind := Catalogued.kind ρ
  let m := Emit.generate g records
  if records.isEmpty then .leave (leftMessage d ("no " ++ kind.slug ++ " extracted"))
  else if m.recordCount == 0 then
    .leave (leftMessage d ("every extracted " ++ kind.noun ++ " was excluded"))
  else
    match validate m.code g.exportName with
    | some message => .fail ⟨.validate kind, message, some d.path, none⟩
    | none => .write m

/-- What is to be done about what has been extracted. -/
def planOf (g : Emit.Generator ρ) (d : Destination) :
    Except Extract.DiscoverError (Extract.Extraction ρ) → Plan
  | .error e =>
    let details := if e.causes.isEmpty then none else some (": ".intercalate e.causes)
    { todo := .fail ⟨.extract (Catalogued.kind ρ), e.message, none, details⟩ }
  | .ok e =>
    { found := e.records.length
      diagnostics := e.diagnostics
      exclusions := if e.records.isEmpty then [] else (Emit.generate g e.records).warnings
      todo := todoOf g d e.records }

/-- What the program does with the records is to decide and to perform. -/
theorem finish_eq (g : Emit.Generator ρ) (o : Options) (d : Destination) (records : List ρ)
    (t : Tree) :
    (finish g o d records t).1 = (if records.isEmpty then [] else (Emit.generate g records).warnings)
      ∧ ((finish g o d records t).2.1, (finish g o d records t).2.2.1)
        = (todoOf g d records).perform (Catalogued.kind ρ) o d t := by
  unfold finish todoOf
  by_cases hempty : records.isEmpty = true
  · simp only [if_pos hempty]
    exact ⟨trivial, rfl⟩
  · by_cases hnone : ((Emit.generate g records).recordCount == 0) = true
    · simp only [if_neg hempty, if_pos hnone]
      exact ⟨trivial, rfl⟩
    · simp only [if_neg hempty, if_neg hnone]
      cases validate (Emit.generate g records).code g.exportName with
      | some message => exact ⟨trivial, rfl⟩
      | none => exact ⟨trivial, rfl⟩

/-- **Synchronizing a kind is performing its plan.** -/
theorem silent_sync (g : Emit.Generator ρ) (o : Options) (d : Destination)
    (extracted : Except Extract.DiscoverError (Extract.Extraction ρ)) (t : Tree) :
    (sync g o d extracted t).silent = (planOf g d extracted).run (Catalogued.kind ρ) o d t := by
  cases extracted with
  | error e => rfl
  | ok e =>
      obtain ⟨hexclusions, hperform⟩ := finish_eq g o d e.records t
      have hending := congrArg Prod.fst hperform
      have htree := congrArg Prod.snd hperform
      simp only at hending htree
      simp only [sync, KindRun.silent, planOf, Plan.run, hexclusions, hending, htree]

end Kind

/-! ## All kinds

The three kinds differ in what is extracted, and the quick reference adds to the commands. -/

/-- The place from which files are searched for. -/
def top (t : Tree) (root : String) : Place := (t.locate root).toOption.getD []

/-- The commands are completed from the quick reference before anything is decided about them. -/
def planCommands (c : Config) (d : Destination) (r : ReferenceRun) :
    Except Extract.DiscoverError (Extract.Extraction CommandRecord) → Plan
  | .error e =>
    Kind.planOf (Emit.Commands.generator (c.commands.patterns ++ c.commands.reference.toList) []) d
      (.error e)
  | .ok e =>
    let sources := c.commands.patterns ++ c.commands.reference.toList
    if e.records.isEmpty then Kind.planOf (Emit.Commands.generator sources []) d (.ok e)
    else
      let p := Kind.planOf (Emit.Commands.generator sources r.reference.packages) d
        (.ok { e with records := r.reference.enrich e.records })
      { p with diagnostics := r.diagnostics ++ p.diagnostics }

/-- The number of packages that a run reports. -/
def packageCount (r : ReferenceRun) :
    Except Extract.DiscoverError (Extract.Extraction CommandRecord) → Nat
  | .error _ => 0
  | .ok e => if e.records.isEmpty then 0 else r.reference.packages.length

/-- The components of a project. -/
def extractComponents (t : Tree) (root : String) (c : Config) :
    Except Extract.DiscoverError (Extract.Extraction ComponentRecord) :=
  Extract.extract (Extract.Component.ofFile c.components.categoryRoot) t (top t root) c.components

/-- Its commands, before the quick reference adds to them. -/
def extractCommands (t : Tree) (root : String) (c : Config) :
    Except Extract.DiscoverError (Extract.Extraction CommandRecord) :=
  Extract.extract Extract.Command.ofFile t (top t root) c.commands

/-- Its patterns. -/
def extractPatterns (t : Tree) (root : String) (c : Config) :
    Except Extract.DiscoverError (Extract.Extraction PatternRecord) :=
  Extract.extract Extract.Pattern.ofFile t (top t root) c.patterns

/-- The plan of a kind, from the tree that a run begins with and what became of the quick
reference. -/
def planFor (t : Tree) (root : String) (c : Config) (r : ReferenceRun) : RecordKind → Plan
  | .component =>
    Kind.planOf (Emit.Components.generator c.components.patterns) (destination root c .component)
      (extractComponents t root c)
  | .command => planCommands c (destination root c .command) r (extractCommands t root c)
  | .pattern =>
    Kind.planOf (Emit.Patterns.generator c.patterns.patterns) (destination root c .pattern)
      (extractPatterns t root c)

/-- Running the commands is performing their plan. -/
theorem silent_runCommands (root : String) (c : Config) (o : Options)
    (extracted : Except Extract.DiscoverError (Extract.Extraction CommandRecord)) (t : Tree) :
    (runCommands root c o extracted t).1.silent
        = (planCommands c (destination root c .command) (readReference t root c.commands)
            extracted).run .command o (destination root c .command) t
      ∧ (runCommands root c o extracted t).2
        = packageCount (readReference t root c.commands) extracted := by
  cases extracted with
  | error e => exact ⟨Kind.silent_sync _ o _ _ t, rfl⟩
  | ok e =>
      by_cases hempty : e.records.isEmpty = true
      · simp only [runCommands, planCommands, packageCount, if_pos hempty]
        exact ⟨Kind.silent_sync _ o _ _ t, trivial⟩
      · simp only [runCommands, planCommands, packageCount, if_neg hempty]
        refine ⟨?_, trivial⟩
        have hsync := Kind.silent_sync
          (Emit.Commands.generator (c.commands.patterns ++ c.commands.reference.toList)
            (readReference t root c.commands).reference.packages) o (destination root c .command)
          (.ok { e with
            records := (readReference t root c.commands).reference.enrich e.records }) t
        exact congrArg
          (fun k : KindRun =>
            { k with diagnostics := (readReference t root c.commands).diagnostics ++ k.diagnostics })
          hsync

/-! ## Stages

Each kind is run on what the kinds before it have left. -/

/-- The tree on which a kind is synchronized, where `step` synchronizes one kind. -/
def before (step : RecordKind → Tree → KindRun) (t : Tree) : RecordKind → Tree
  | .component => t
  | .command => (step .component t).tree
  | .pattern => (step .command (step .component t).tree).tree

/-- What becomes of a kind when all kinds are synchronized in turn. -/
def stage (step : RecordKind → Tree → KindRun) (t : Tree) (kind : RecordKind) : KindRun :=
  step kind (before step t kind)

/-- The quick reference is read when the components have been written. -/
def referenceOf (t : Tree) (root : String) (c : Config) (o : Options) : ReferenceRun :=
  readReference
    ((planFor t root c {} .component).run .component o (destination root c .component) t).tree
    root c.commands

/-- How a run that begins with `t` synchronizes a kind. -/
def stepOf (t : Tree) (root : String) (c : Config) (o : Options) (kind : RecordKind) :
    Tree → KindRun :=
  (planFor t root c (referenceOf t root c o) kind).run kind o (destination root c kind)

theorem reportOf_silent (o : Options) (a b c : KindRun) (packages : Nat) :
    reportOf o a.silent b.silent c.silent packages = reportOf o a b c packages := rfl

/-- **A run is its three stages**, in its report as in the tree that it leaves. -/
theorem run_eq (t : Tree) (root : String) (c : Config) (o : Options) :
    (run t root c o).report
        = reportOf o (stage (stepOf t root c o) t .component)
            (stage (stepOf t root c o) t .command) (stage (stepOf t root c o) t .pattern)
            (packageCount (referenceOf t root c o) (extractCommands t root c))
      ∧ (run t root c o).tree = (stage (stepOf t root c o) t .pattern).tree := by
  -- from stage to stage, each beginning with the tree of the one before
  have hfirst : (runComponents root c o (extractComponents t root c) t).silent
      = stage (stepOf t root c o) t .component := Kind.silent_sync _ o _ _ t
  generalize hone : runComponents root c o (extractComponents t root c) t = first at hfirst
  have href : readReference first.tree root c.commands = referenceOf t root c o := by
    rw [← KindRun.silent_tree, hfirst]
    rfl
  obtain ⟨hsecond, hpackages⟩ :=
    silent_runCommands root c o (extractCommands t root c) first.tree
  rw [href] at hsecond hpackages
  have hsecond' : (runCommands root c o (extractCommands t root c) first.tree).1.silent
      = stage (stepOf t root c o) t .command := by
    rw [hsecond, ← KindRun.silent_tree, hfirst]
    rfl
  generalize htwo : runCommands root c o (extractCommands t root c) first.tree = second
    at hsecond' hpackages
  have hthird : (runPatterns root c o (extractPatterns t root c) second.1.tree).silent
      = stage (stepOf t root c o) t .pattern := by
    rw [runPatterns, Kind.silent_sync, ← KindRun.silent_tree second.1, hsecond']
    rfl
  generalize hthree : runPatterns root c o (extractPatterns t root c) second.1.tree = third
    at hthird
  have hrun : (run t root c o).report = reportOf o first second.1 third second.2
      ∧ (run t root c o).tree = third.tree := by
    subst hone htwo hthree
    exact ⟨rfl, rfl⟩
  rw [hrun.1, hrun.2, ← reportOf_silent, hfirst, hsecond', hthird, hpackages,
    ← KindRun.silent_tree, hthird]
  exact ⟨rfl, rfl⟩

end DocCatalog.Sync
