import DocCatalog.Proofs.Emit.Classified
import DocCatalog.Proofs.Emit.EntryCount
import DocCatalog.Proofs.Extract.Tally
import DocCatalog.Proofs.Sync.Noninterference

/-!
# No record is lost

From the files to the module a record can be left out in two places: where files are merged, and where
the module is generated. Both say so in the report. What is left is in the table, also when the module is
not written.

* **`Report.duplicatesOf`**, **`Report.exclusionsOf`**: what a report says of records that are left out.
* **`Plan.Sorts`**: a plan made from records.
* **`duplicatesOf_reportOfAll`**, **`exclusionsOf_reportOfAll`**: what the stages say is in the report.
* **`Conserves`**: the figures of a kind balance.
* **`run_conserves`**: they do in every run, for every kind that is extracted.
-/

namespace DocCatalog

/-- Whether a warning is about a record that has no entry. -/
def Warning.saysExcluded (w : Warning) : Bool :=
  "excluded ".toList.isPrefixOf w.message.toList

namespace Report

/-- The errors about records of one kind whose name had been met. -/
def duplicatesOf (r : Report) (kind : RecordKind) : List (Phase × Diagnostic) :=
  r.diagnostics.filter fun d => d.1 == .extract kind && d.2.saysDuplicate

/-- The warnings about records of one kind that have no entry. -/
def exclusionsOf (r : Report) (kind : RecordKind) : List Warning :=
  r.warnings.filter fun w => w.phase == .generate kind && w.saysExcluded

end Report

namespace Sync

/-! ## Plans

A plan that is made from records says of each of them that it has an entry or is left out. -/

section Plans

variable {ρ : Type} [Catalogued ρ]

/-- The message about a record says so. -/
theorem saysExcluded_exclusionMessage (phase : Phase) (location : Option String) (r : ρ)
    (e : Emit.Exclusion) :
    (Warning.mk phase location (Emit.exclusionMessage r e)).saysExcluded = true := by
  have hprefix : "excluded ".toList <+: (Emit.exclusionMessage r e).toList := by
    unfold Emit.exclusionMessage
    simp only [String.toList_append, List.append_assoc]
    exact List.prefix_append _ _
  exact List.isPrefixOf_iff_prefix.mpr hprefix

/-- The plan for a kind of which the given records have been extracted. -/
structure Plan.Sorts (g : Emit.Generator ρ) (records : List ρ) (p : Plan) : Prop where
  found : p.found = records.length
  exclusions : p.exclusions = (Emit.generate g records).warnings
  leaves : ∀ message, p.todo = .leave message →
    ∀ phase location, (Warning.mk phase location message).saysExcluded = false
  writes : ∀ m, p.todo = .write m → m = Emit.generate g records ∧ m.recordCount ≠ 0

/-- The message about a module does not. -/
theorem Kind.todoOf_leaves (g : Emit.Generator ρ) (d : Destination) (records : List ρ)
    {message : String} (h : todoOf g d records = .leave message) (phase : Phase)
    (location : Option String) : (Warning.mk phase location message).saysExcluded = false := by
  unfold todoOf at h
  simp only at h
  split at h
  · -- both messages begin with other words than that of an excluded record
    rw [← Todo.leave.inj h]
    have hapart : Emit.Apart "excluded ".toList "no ".toList := by decide
    delta leftMessage Warning.saysExcluded
    simp only [String.append_assoc]
    exact hapart.isPrefixOf_append _
  · split at h
    · rw [← Todo.leave.inj h]
      have hapart : Emit.Apart "excluded ".toList "every extracted ".toList := by decide
      delta leftMessage Warning.saysExcluded
      simp only [String.append_assoc]
      exact hapart.isPrefixOf_append _
    · split at h
      · cases h
      · cases h

/-- A module that is written has entries. -/
theorem Kind.todoOf_writes (g : Emit.Generator ρ) (d : Destination) (records : List ρ)
    {m : Emit.GeneratedModule} (h : todoOf g d records = .write m) :
    m = Emit.generate g records ∧ m.recordCount ≠ 0 := by
  unfold todoOf at h
  simp only at h
  split at h
  · cases h
  · split at h
    · cases h
    · next hcount =>
        split at h
        · cases h
        · rw [← Todo.write.inj h]
          exact ⟨rfl, by simpa using hcount⟩

/-- **The plan from what was extracted** says so of each record. -/
theorem Kind.planOf_sorts (g : Emit.Generator ρ) (d : Destination) (e : Extract.Extraction ρ) :
    (planOf g d (.ok e)).Sorts g e.records where
  found := rfl
  exclusions := by
    cases hrecords : e.records with
    | nil => simp [planOf, hrecords, (Emit.generate_nil g).1]
    | cons r records => simp [planOf, hrecords]
  leaves _ h := todoOf_leaves g d e.records h
  writes _ h := todoOf_writes g d e.records h

end Plans

/-! ## The quick reference

What the quick reference has to tell is about the reference. It adds to the commands, but no
command. -/

/-- Nothing in it is about names that were met. -/
theorem saysDuplicate_readReference {t : Tree} {root : String} {c : SourceConfig} {d : Diagnostic}
    (h : d ∈ (readReference t root c).diagnostics) : d.saysDuplicate = false := by
  refine Diagnostic.saysDuplicate_of_warn ?_
  unfold readReference at h
  split at h
  · cases h
  · split at h
    · rw [List.mem_singleton.mp h]
      rfl
    · simp only at h
      split at h
      · cases h
      · rw [List.mem_singleton.mp h]
        rfl

/-- Commands are sorted when they have been completed. -/
theorem planCommands_sorts (c : Config) (d : Destination) (r : ReferenceRun)
    (e : Extract.Extraction CommandRecord) :
    (planCommands c d r (.ok e)).Sorts
      (Emit.Commands.generator (c.commands.patterns ++ c.commands.reference.toList)
        r.reference.packages) (r.reference.enrich e.records) := by
  unfold planCommands
  simp only
  split
  · next hempty =>
      -- without records it does not matter that the quick reference is not read
      have hrecords : e.records = [] := List.isEmpty_iff.mp hempty
      have hsorts := Kind.planOf_sorts
        (Emit.Commands.generator (c.commands.patterns ++ c.commands.reference.toList) []) d e
      have henrich : r.reference.enrich e.records = [] := by
        rw [hrecords]
        rfl
      rw [hrecords] at hsorts
      rw [henrich]
      refine ⟨hsorts.found, ?_, hsorts.leaves, ?_⟩
      · rw [hsorts.exclusions, (Emit.generate_nil _).1, (Emit.generate_nil _).1]
      · intro m hm
        obtain ⟨rfl, hcount⟩ := hsorts.writes m hm
        exact absurd (Emit.generate_nil _).2 hcount
  · have hsorts := Kind.planOf_sorts
      (Emit.Commands.generator (c.commands.patterns ++ c.commands.reference.toList)
        r.reference.packages) d { e with records := r.reference.enrich e.records }
    exact ⟨hsorts.found, hsorts.exclusions, hsorts.leaves, hsorts.writes⟩

/-- What is said of the quick reference is about no record. -/
theorem duplicates_planCommands (c : Config) (d : Destination) {r : ReferenceRun}
    (hr : ∀ x ∈ r.diagnostics, x.saysDuplicate = false) (e : Extract.Extraction CommandRecord) :
    (planCommands c d r (.ok e)).diagnostics.filter Diagnostic.saysDuplicate
      = e.diagnostics.filter Diagnostic.saysDuplicate := by
  have hreference : r.diagnostics.filter Diagnostic.saysDuplicate = [] := by
    refine List.filter_eq_nil_iff.mpr fun x hx => ?_
    rw [hr x hx]
    exact Bool.false_ne_true
  unfold planCommands
  simp only
  split
  · rfl
  · simp only [List.filter_append, hreference, List.nil_append]
    rfl

/-! ## Reports

The report of a run has what the kinds have said. Only the phase tells which kind it was. -/

section Report

variable {o : Options} {said : RecordKind → KindRun} {packages : Nat}

/-- What a kind has said about repeated names is in the report for this kind. -/
theorem duplicatesOf_reportOfAll (k : RecordKind) :
    (reportOfAll o said packages).duplicatesOf k
      = ((said k).diagnostics.filter Diagnostic.saysDuplicate).map (Phase.extract k, ·) := by
  rw [Report.duplicatesOf, diagnostics_reportOfAll, filter_flatMap_all]
  · rw [List.filter_map]
    refine congrArg (List.map (Phase.extract k, ·)) (List.filter_congr fun d _ => ?_)
    simp
  · intro other hother x hx
    obtain ⟨d, -, rfl⟩ := List.mem_map.mp hx
    have hphase : (Phase.extract other == Phase.extract k) = false :=
      beq_false_of_ne fun h => hother (Phase.extract.inj h)
    rw [hphase, Bool.false_and]

/-- The warnings about records are those that a kind has for them, where nothing else that it says
begins like that. -/
theorem exclusionsOf_reportOfAll {k : RecordKind}
    (hexcluded : ∀ message ∈ (said k).exclusions,
      (Warning.mk (.generate k) none message).saysExcluded = true)
    (hleft : ∀ message, (said k).ending = .untouched message →
      (Warning.mk (.generate k) none message).saysExcluded = false) :
    (reportOfAll o said packages).exclusionsOf k
      = (said k).exclusions.map fun message => ⟨.generate k, none, message⟩ := by
  -- warnings about arguments are in no phase of a kind
  have hunknown : (o.unknown.map fun a => (⟨.parseArgs, none, unknownMessage a⟩ : Warning)).filter
      (fun w => w.phase == .generate k && w.saysExcluded) = [] := by
    refine List.filter_eq_nil_iff.mpr fun w hw => ?_
    obtain ⟨a, -, rfl⟩ := List.mem_map.mp hw
    exact Bool.false_ne_true
  -- nor does the warning about the module speak of a record
  have hlast : ((said k).left k).filter (fun w => w.phase == .generate k && w.saysExcluded) = [] := by
    refine List.filter_eq_nil_iff.mpr fun w hw => ?_
    unfold KindRun.left at hw
    split at hw
    · next message hmessage =>
        rw [List.mem_singleton.mp hw, hleft message hmessage, Bool.and_false]
        exact Bool.false_ne_true
    · cases hw
  rw [Report.exclusionsOf, warnings_reportOfAll, List.filter_append, hunknown, List.nil_append,
    filter_flatMap_all, KindRun.warnings_eq, List.filter_append, hlast, List.append_nil]
  · refine List.filter_eq_self.mpr fun w hw => ?_
    obtain ⟨message, hmem, rfl⟩ := List.mem_map.mp hw
    rw [hexcluded message hmem, Bool.and_true]
    exact beq_self_eq_true _
  · -- the warnings of the other kinds are in other phases
    intro other hother w hw
    obtain ⟨message, -, rfl⟩ := List.mem_map.mp hw
    have hphase : (Phase.generate other == Phase.generate k) = false :=
      beq_false_of_ne fun h => hother (Phase.generate.inj h)
    rw [hphase, Bool.false_and]

end Report

/-! ## Runs

For every kind the records are counted at three places: in the files, behind merging, and in the
module. -/

section Runs

variable {ρ : Type} [Catalogued ρ]

/-- The figures of a kind balance: `built` records were built from the files, `records` are those that
were kept when the files were merged, and `g` makes the module. -/
structure Conserves (g : Emit.Generator ρ) (ok : ρ → Prop) (built : Nat) (records : List ρ)
    (r : Report) : Prop where
  /-- A record is a duplicate, it is excluded, or it has an entry. -/
  balance : built = (r.duplicatesOf (Catalogued.kind ρ)).length
    + (r.exclusionsOf (Catalogued.kind ρ)).length + (Emit.generate g records).recordCount
  found : r.stats.found (Catalogued.kind ρ)
    = (r.exclusionsOf (Catalogued.kind ρ)).length + (Emit.generate g records).recordCount
  /-- The table has as many entries as the module says. -/
  table : ∃ kept, Emit.Tabulates g kept (Emit.generate g records).code
    ∧ kept.length = (Emit.generate g records).recordCount
  /-- They can be counted in the text of the module, where it is `ok` that records are written. -/
  counted : (∀ x ∈ records, ok x) →
    Emit.entryCount g (Emit.generate g records).code = (Emit.generate g records).recordCount
  /-- A file holds the module, and there is something in its table. -/
  files : ∀ f ∈ r.filesOf (Catalogued.kind ρ),
    f.code = (Emit.generate g records).code ∧ f.records = (Emit.generate g records).recordCount
      ∧ 1 ≤ f.records

variable {t : Tree} {root : String} {c : Config} {o : Options}

/-- **The figures balance** if they do for the plan and for merging. -/
theorem conserves_of_sorts {g : Emit.Generator ρ} {ok : ρ → Prop} {built : Nat} {records : List ρ}
    (hsorts : (planFor t root c (referenceOf t root c o) (Catalogued.kind ρ)).Sorts g records)
    (hbuilt : built = ((planFor t root c (referenceOf t root c o) (Catalogued.kind ρ)).diagnostics.filter
      Diagnostic.saysDuplicate).length + records.length)
    (hcounted : (∀ x ∈ records, ok x) →
      Emit.entryCount g (Emit.generate g records).code = (Emit.generate g records).recordCount) :
    Conserves g ok built records (run t root c o).report := by
  have hstage : stage (stepOf t root c o) t (Catalogued.kind ρ)
      = (planFor t root c (referenceOf t root c o) (Catalogued.kind ρ)).run (Catalogued.kind ρ) o
          (destination root c (Catalogued.kind ρ)) (before (stepOf t root c o) t (Catalogued.kind ρ)) := by
    rw [stage, stepOf]
  generalize planFor t root c (referenceOf t root c o) (Catalogued.kind ρ) = p at hsorts hbuilt hstage
  generalize before (stepOf t root c o) t (Catalogued.kind ρ) = s at hstage
  -- what the report says of the kind is what the plan says
  have hduplicates : ((run t root c o).report.duplicatesOf (Catalogued.kind ρ)).length
      = (p.diagnostics.filter Diagnostic.saysDuplicate).length := by
    rw [report_eq, duplicatesOf_reportOfAll, List.length_map, hstage, Plan.run]
  have hexclusions : ((run t root c o).report.exclusionsOf (Catalogued.kind ρ)).length
      = (Emit.generate g records).warnings.length := by
    rw [report_eq, exclusionsOf_reportOfAll, List.length_map, hstage, Plan.run, hsorts.exclusions]
    · intro message hmem
      rw [hstage, Plan.run, hsorts.exclusions] at hmem
      obtain ⟨r, e, rfl⟩ := Emit.mem_warnings (g := g) hmem
      exact saysExcluded_exclusionMessage _ _ r e
    · intro message hmessage
      rw [hstage] at hmessage
      exact hsorts.leaves message (perform_untouched hmessage) _ _
  have hfound : (run t root c o).report.stats.found (Catalogued.kind ρ) = records.length := by
    rw [report_eq, found_reportOfAll, hstage, Plan.run, hsorts.found]
  have hsorted := Emit.length_kept_add_length_warnings g records
  rw [← Emit.recordCount_generate g] at hsorted
  refine ⟨?_, ?_, ⟨Emit.kept records, Emit.tabulates_generate g records, rfl⟩, hcounted, ?_⟩
  · omega
  · omega
  · intro f hf
    rw [report_eq, filesOf_reportOfAll (stage_proper t root c o)] at hf
    have hending := (mem_files (stage_proper t root c o) hf).1
    rw [hstage] at hending
    obtain ⟨⟨m, hm, rfl⟩, -⟩ := perform_generated hending
    obtain ⟨rfl, hcount⟩ := hsorts.writes m hm
    exact ⟨rfl, rfl, Nat.one_le_iff_ne_zero.mpr hcount⟩

/-- The figures of a kind balance that is sorted as it was merged. -/
theorem conserves_of_planOf {g : Emit.Generator ρ} {ok : ρ → Prop}
    {ofFile : Outline → String → Extract.FileResult ρ} (hwarns : Extract.Warns ofFile)
    {sources : List Extract.SourceFile}
    (hplan : planFor t root c (referenceOf t root c o) (Catalogued.kind ρ)
      = Kind.planOf g (destination root c (Catalogued.kind ρ))
          (.ok (Extract.mergeSources ofFile sources)))
    (hcounted : ∀ records : List ρ,
      Emit.entryCount g (Emit.generate g records).code = (Emit.generate g records).recordCount) :
    Conserves g ok (Extract.built ofFile sources).length (Extract.mergeSources ofFile sources).records
      (run t root c o).report := by
  refine conserves_of_sorts ?_ ?_ fun _ => hcounted _
  · rw [hplan]
    exact Kind.planOf_sorts g _ _
  · rw [hplan]
    exact Extract.length_built hwarns sources

end Runs

section Kinds

variable (t : Tree) (root : String) (c : Config) (o : Options)

theorem components_conserve {sources : List Extract.SourceFile}
    (h : Extract.discover t (top t root) c.components = .ok sources) :
    Conserves (Emit.Components.generator c.components.patterns) (fun _ => True)
      (Extract.built (Extract.Component.ofFile c.components.categoryRoot) sources).length
      (Extract.mergeSources (Extract.Component.ofFile c.components.categoryRoot) sources).records
      (run t root c o).report := by
  have hextract : extractComponents t root c
      = .ok (Extract.mergeSources (Extract.Component.ofFile c.components.categoryRoot) sources) := by
    rw [extractComponents, Extract.extract_eq, h]
    rfl
  refine conserves_of_planOf (Extract.warns_component _) ?_ (Emit.Components.entryCount_generate _)
  show planFor t root c (referenceOf t root c o) .component = _
  rw [planFor, hextract]
  rfl

theorem patterns_conserve {sources : List Extract.SourceFile}
    (h : Extract.discover t (top t root) c.patterns = .ok sources) :
    Conserves (Emit.Patterns.generator c.patterns.patterns) (fun _ => True)
      (Extract.built Extract.Pattern.ofFile sources).length
      (Extract.mergeSources Extract.Pattern.ofFile sources).records (run t root c o).report := by
  have hextract : extractPatterns t root c
      = .ok (Extract.mergeSources Extract.Pattern.ofFile sources) := by
    rw [extractPatterns, Extract.extract_eq, h]
    rfl
  refine conserves_of_planOf Extract.warns_pattern ?_ (Emit.Patterns.entryCount_generate _)
  show planFor t root c (referenceOf t root c o) .pattern = _
  rw [planFor, hextract]
  rfl

/-- The commands, which the quick reference adds to in between. -/
theorem commands_conserve {sources : List Extract.SourceFile}
    (h : Extract.discover t (top t root) c.commands = .ok sources) :
    Conserves
      (Emit.Commands.generator (c.commands.patterns ++ c.commands.reference.toList)
        (referenceOf t root c o).reference.packages)
      Emit.Commands.HasTameNumbers (Extract.built Extract.Command.ofFile sources).length
      ((referenceOf t root c o).reference.enrich
        (Extract.mergeSources Extract.Command.ofFile sources).records)
      (run t root c o).report := by
  have hextract : extractCommands t root c
      = .ok (Extract.mergeSources Extract.Command.ofFile sources) := by
    rw [extractCommands, Extract.extract_eq, h]
    rfl
  have hplan : planFor t root c (referenceOf t root c o) (Catalogued.kind CommandRecord)
      = planCommands c (destination root c .command) (referenceOf t root c o)
          (.ok (Extract.mergeSources Extract.Command.ofFile sources)) := by
    show planFor t root c (referenceOf t root c o) .command = _
    rw [planFor, hextract]
  refine conserves_of_sorts ?_ ?_ (Emit.Commands.entryCount_generate _ _)
  · rw [hplan]
    exact planCommands_sorts _ _ _ _
  · -- a duplicate is reported by the extraction, not by the reference
    have hquiet : ∀ x ∈ (referenceOf t root c o).diagnostics, x.saysDuplicate = false := by
      intro x hx
      rw [referenceOf] at hx
      exact saysDuplicate_readReference hx
    rw [hplan, duplicates_planCommands c _ hquiet, Extract.length_built Extract.warns_command,
      Reference.QuickReference.enrich, List.length_map]

/-- **No record is lost**, in any run, for every kind of which the files are found. Commands have been
completed from the quick reference when they are sorted, and the numbers among their defaults are
written as they are. -/
theorem run_conserves :
    (∀ sources, Extract.discover t (top t root) c.components = .ok sources →
      Conserves (Emit.Components.generator c.components.patterns) (fun _ => True)
        (Extract.built (Extract.Component.ofFile c.components.categoryRoot) sources).length
        (Extract.mergeSources (Extract.Component.ofFile c.components.categoryRoot) sources).records
        (run t root c o).report)
    ∧ (∀ sources, Extract.discover t (top t root) c.commands = .ok sources →
      Conserves
        (Emit.Commands.generator (c.commands.patterns ++ c.commands.reference.toList)
          (referenceOf t root c o).reference.packages)
        Emit.Commands.HasTameNumbers (Extract.built Extract.Command.ofFile sources).length
        ((referenceOf t root c o).reference.enrich
          (Extract.mergeSources Extract.Command.ofFile sources).records)
        (run t root c o).report)
    ∧ ∀ sources, Extract.discover t (top t root) c.patterns = .ok sources →
      Conserves (Emit.Patterns.generator c.patterns.patterns) (fun _ => True)
        (Extract.built Extract.Pattern.ofFile sources).length
        (Extract.mergeSources Extract.Pattern.ofFile sources).records (run t root c o).report :=
  ⟨fun _ => components_conserve t root c o, fun _ => commands_conserve t root c o,
    fun _ => patterns_conserve t root c o⟩

end Kinds

/-- A file in which one name is given twice. -/
def repeatedSource : Extract.SourceFile where
  path := "a.ts"
  content := .text "export const aPattern = 'x';\nexport const aPattern = 'y';\n"

/-- A project with this file. -/
def repeatedTree : Tree where
  entries := [(["p"], .directory), (["p", "a.ts"], .file ⟨repeatedSource.content, Tree.newFileMode⟩)]

/-- The patterns are looked for in it. -/
def repeatedConfig : Config :=
  { Config.standard with patterns := { Config.standard.patterns with patterns := ["a.ts"] } }

/-- Two records are built, and one is an error. -/
theorem run_conserves_repeated :
    Extract.discover repeatedTree (top repeatedTree "/p") repeatedConfig.patterns
        = .ok [repeatedSource]
      ∧ (Extract.built Extract.Pattern.ofFile [repeatedSource]).length = 2
      ∧ Conserves (Emit.Patterns.generator ["a.ts"]) (fun _ => True) 2
          (Extract.mergeSources Extract.Pattern.ofFile [repeatedSource]).records
          (run repeatedTree "/p" repeatedConfig {}).report := by
  have hfound : (Extract.discover repeatedTree (top repeatedTree "/p") repeatedConfig.patterns).toOption
      = some [repeatedSource] := by decide +kernel
  have hdiscover : Extract.discover repeatedTree (top repeatedTree "/p") repeatedConfig.patterns
      = .ok [repeatedSource] := by
    cases hresult : Extract.discover repeatedTree (top repeatedTree "/p") repeatedConfig.patterns with
    | error e =>
        rw [hresult] at hfound
        cases hfound
    | ok sources =>
        rw [hresult] at hfound
        exact congrArg Except.ok (Option.some.inj hfound)
  have hbuilt : (Extract.built Extract.Pattern.ofFile [repeatedSource]).length = 2 := by
    decide +kernel
  have hconserves := (run_conserves repeatedTree "/p" repeatedConfig {}).2.2 _ hdiscover
  rw [hbuilt] at hconserves
  exact ⟨hdiscover, hbuilt, hconserves⟩

end Sync

end DocCatalog
