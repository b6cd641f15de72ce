import DocCatalog.Proofs.Emit.Classified
import DocCatalog.Proofs.Files.AllOrNothing
import DocCatalog.Proofs.Sync.Alone

/-!
# Modules that are generated

A module is generated when its records have entries, its code can be read with the table among what it
exports, and nothing is in the way of its file. The code is read as characters, which are put together
line by line.

* **`exportsTable`**, **`validate_eq_none`**: what a module has to be like.
* **`toList_parts`**, **`toList_linesOf_cons`**: the characters of a module.
* **`Kind.todoOf_of_kept`**, **`Kind.todoOf_of_excluded`**: what is to become of the module of one record.
* **`smallTree`**, **`smallConfig`**: a project with a source of every kind.
* **`filesGenerated_small`**: the modules of this project.
-/

namespace DocCatalog.Sync

/-! ## Modules that are fine

That a module is fine is a matter of reading it. A text is read in as many steps as its length
allows for, and no text has to be taken apart for this when its characters are known. -/

/-- Whether a source text with the given characters can be read and exports a constant with the name.
The fuel is that of reading a text of this length. -/
def exportsTable (cs : List Char) (name : String) : Bool :=
  match Script.program (Script.read (8 * cs.length + 64)) (Script.Reader.ofText false cs) with
  | .ok (tree, _) => (Outline.ofTree tree).exported.any fun d => d.kind == .const && d.name == name
  | .error _ => false

/-- **A module is fine** when its characters can be read and the table is among what they export. -/
theorem validate_eq_none {code name : String} {cs : List Char} (h : code.toList = cs)
    (hexports : exportsTable cs name = true) : Kind.validate code name = none := by
  unfold exportsTable at hexports
  unfold Kind.validate Outline.ofText Script.parse
  simp only [h]
  split at hexports
  · next tree rest hprogram =>
      have hplain : (Script.Dialect.plain == Script.Dialect.markup) = false := rfl
      simp only [hplain, hprogram, Except.map, hexports, if_true]
  · cases hexports

/-- The characters of a module: its header, its interfaces and declarations, its table and its
functions. -/
theorem toList_parts {header interfaces declarations table helpers : String}
    {as bs cs ds es : List Char} (ha : header.toList = as) (hb : interfaces.toList = bs)
    (hc : declarations.toList = cs) (hd : table.toList = ds) (he : helpers.toList = es) :
    (header ++ (interfaces ++ declarations) ++ table ++ helpers).toList
      = as ++ (bs ++ cs) ++ ds ++ es := by
  simp only [String.toList_append, ha, hb, hc, hd, he]

theorem toList_linesOf_nil : (Emit.linesOf []).toList = [] := rfl

/-- The characters of some lines. That the characters of a line are given is all that has to be checked
of it, whatever the line is. -/
theorem toList_linesOf_cons {line : String} {lines : List String} {cs rest : List Char}
    (hline : line = String.ofList cs) (h : (Emit.linesOf lines).toList = rest) :
    (Emit.linesOf (line :: lines)).toList = cs ++ '\n' :: rest := by
  unfold Emit.linesOf at h ⊢
  rw [List.map_cons, String.join_cons, String.toList_append, String.toList_append, h, hline,
    String.toList_ofList, List.append_assoc]
  rfl

/-! ## One record

What becomes of the module of a single record is decided by whether the record gets an entry. -/

section Record

variable {ρ : Type} [Catalogued ρ] {g : Emit.Generator ρ} {r : ρ}

/-- **The module of a record that gets an entry is written**, if it is fine. -/
theorem Kind.todoOf_of_kept (d : Destination) (hkept : Emit.exclusion? [] r = none)
    (hvalid : Kind.validate (Emit.moduleCode g [r]) g.exportName = none) :
    Kind.todoOf g d [r] = .write ⟨Emit.moduleCode g [r], [], 1⟩ := by
  have hone : ((1 : Nat) == 0) = false := rfl
  unfold Kind.todoOf
  simp only [Emit.generate_of_kept g hkept, hvalid, hone, List.isEmpty_cons, Bool.false_eq_true,
    if_false]

/-- The module of a record that gets none is left as it was. -/
theorem Kind.todoOf_of_excluded (d : Destination) {e : Emit.Exclusion}
    (hexcluded : Emit.exclusion? [] r = some e) :
    ∃ message, Kind.todoOf g d [r] = .leave message := by
  unfold Kind.todoOf
  simp only [Emit.recordCount_of_excluded g hexcluded, List.isEmpty_cons, beq_self_eq_true,
    Bool.false_eq_true, if_false, if_true]
  exact ⟨_, rfl⟩

end Record

/-- The files of a report are those of the kinds, in turn. -/
theorem filesGenerated_run (t : Tree) (root : String) (c : Config) (o : Options) :
    (run t root c o).report.stats.filesGenerated
      = (RecordKind.all.flatMap fun k => (stage (stepOf t root c o) t k).files).map (·.path) := by
  rw [(run_eq t root c o).1]
  rfl

/-! ## A small project

It has a source of every kind. The component and the pattern get modules. The name of the command is no
key, so that the module of the commands is left as it was. -/

/-- A quick reference, a component, a command and a pattern. -/
def smallTree : Tree where
  entries :=
    [(["p"], .directory),
     (["p", "q.md"], .file ⟨.text "\x60\x60\x60\nls -a\n\x60\x60\x60\n", Tree.newFileMode⟩),
     (["p", "b.ts"], .file
       ⟨.text "/** B */\n@Component(\x7b selector: 'ax-b' \x7d)\nexport class AxB \x7b\x7d\n",
         Tree.newFileMode⟩),
     (["p", "m.js"], .file ⟨.text "program.command('2d');\n", Tree.newFileMode⟩),
     (["p", "s.ts"], .file ⟨.text "/** d */\nexport const aPattern = 'x';\n", Tree.newFileMode⟩)]

/-- The modules go to one directory, that of the components to the given path in it. -/
def smallConfig (path : String) : Config where
  outputDir := "o"
  components := ⟨["b.ts"], path, none, true, none⟩
  commands := ⟨["m.js"], "m.ts", none, true, some "q.md"⟩
  patterns := ⟨["s.ts"], "p.ts", none, true, none⟩

/-- What is extracted from the class. -/
def smallComponent : ComponentRecord where
  name := "AxB"
  selector := "ax-b"
  category := "general"
  description := "B"
  inputs := []
  outputs := []
  usage := none
  bestPractices := []
  related := []
  provenance := ⟨"b.ts", 3⟩

/-- What is extracted from the call. -/
def smallCommand : CommandRecord where
  name := "2d"
  alias? := none
  description := ""
  usage := "2d"
  arguments := []
  options := []
  examples := []
  notes := []
  provenance := ⟨"m.js", 1⟩

/-- What is extracted from the constant. -/
def smallPattern : PatternRecord where
  name := "aPattern"
  title := "A"
  category := "general"
  language := "typescript"
  description := "d"
  code := "x"
  notes := []
  related := []
  provenance := ⟨"s.ts", 2⟩

/-- Records that are compared in computed form are those of the extraction. -/
theorem exists_records {ρ : Type} {extracted : Except Extract.DiscoverError (Extract.Extraction ρ)}
    {records : List ρ} (h : extracted.toOption.map (·.records) = some records) :
    ∃ e, extracted = .ok e ∧ e.records = records := by
  cases extracted with
  | error e => cases h
  | ok e => exact ⟨e, rfl, Option.some.inj h⟩

/-- Each source has one record. Where the module of the components goes is no matter of this. -/
theorem records_small (path : String) :
    (extractComponents smallTree "/p" (smallConfig path)).toOption.map (·.records)
        = some [smallComponent]
      ∧ (extractCommands smallTree "/p" (smallConfig path)).toOption.map (·.records)
        = some [smallCommand]
      ∧ (extractPatterns smallTree "/p" (smallConfig path)).toOption.map (·.records)
        = some [smallPattern] := by
  show (extractComponents smallTree "/p" (smallConfig "b.ts")).toOption.map (·.records) = _
    ∧ (extractCommands smallTree "/p" (smallConfig "b.ts")).toOption.map (·.records) = _
    ∧ (extractPatterns smallTree "/p" (smallConfig "b.ts")).toOption.map (·.records) = _
  refine ⟨?_, ?_, ?_⟩
  · decide +kernel
  · decide +kernel
  · decide +kernel

/-! ### Its modules

The parts of a module are compared as texts, so that only those that depend on the records have to be
written out again. The whole module is then read as characters. -/

/-- The generator of the components of this project. -/
def smallComponents : Emit.Generator ComponentRecord := Emit.Components.generator ["b.ts"]

/-- The generator of its patterns. -/
def smallPatterns : Emit.Generator PatternRecord := Emit.Patterns.generator ["s.ts"]

/-- The module of the component, written out except for what is in all such modules. -/
theorem moduleCode_smallComponents :
    Emit.moduleCode smallComponents [smallComponent]
      = Emit.linesOf
          ["// Generated by mcp-sync (components generator). Do not edit by hand.", "//",
           "// Sources:", "//   b.ts", "//", "// Regenerate with: mcp-sync", ""]
        ++ (Emit.Components.interfaces ++ Emit.linesOf
          ["export const componentCategories = [", "  'general',", "] as const;", "",
           "export type ComponentCategory = (typeof componentCategories)[number];", ""])
        ++ Emit.linesOf
          ["export const components: Record<string, ComponentInfo> = \x7b",
           "  AxB: \x7b", "    name: 'AxB',", "    selector: 'ax-b',", "    category: 'general',",
           "    description: 'B',", "    inputs: [],", "    outputs: [],", "    usage: \x60\x60,",
           "  \x7d,", "\x7d;"]
        ++ Emit.Components.helpers := by
  have hheader : Emit.header smallComponents = Emit.linesOf
      ["// Generated by mcp-sync (components generator). Do not edit by hand.", "//",
       "// Sources:", "//   b.ts", "//", "// Regenerate with: mcp-sync", ""] := by
    decide
  have hcategories : Emit.Components.categories [smallComponent] = Emit.linesOf
      ["export const componentCategories = [", "  'general',", "] as const;", "",
       "export type ComponentCategory = (typeof componentCategories)[number];", ""] := by
    decide
  have htable : Emit.table smallComponents [smallComponent] = Emit.linesOf
      ["export const components: Record<string, ComponentInfo> = \x7b",
       "  AxB: \x7b", "    name: 'AxB',", "    selector: 'ax-b',", "    category: 'general',",
       "    description: 'B',", "    inputs: [],", "    outputs: [],", "    usage: \x60\x60,",
       "  \x7d,", "\x7d;"] := by
    decide +kernel
  have hpreamble : smallComponents.preamble [smallComponent]
      = Emit.Components.interfaces ++ Emit.Components.categories [smallComponent] := rfl
  have hhelpers : smallComponents.helpers = Emit.Components.helpers := rfl
  rw [Emit.moduleCode, hheader, hpreamble, hcategories, htable, hhelpers]

/-- The module of the pattern, written out in the same way. -/
theorem moduleCode_smallPatterns :
    Emit.moduleCode smallPatterns [smallPattern]
      = Emit.linesOf
          ["// Generated by mcp-sync (patterns generator). Do not edit by hand.", "//",
           "// Sources:", "//   s.ts", "//", "// Regenerate with: mcp-sync", ""]
        ++ (Emit.Patterns.interfaces ++ Emit.linesOf
          ["export const patternCategories = ['general'] as const;", "",
           "export type PatternCategory = (typeof patternCategories)[number];", ""])
        ++ Emit.linesOf
          ["export const patterns: Record<string, CodePattern> = \x7b",
           "  aPattern: \x7b", "    name: 'aPattern',", "    title: 'A',",
           "    category: 'general',", "    language: 'typescript',", "    description: 'd',",
           "    code: \x60x\x60,", "  \x7d,", "\x7d;"]
        ++ Emit.Patterns.helpers := by
  have hheader : Emit.header smallPatterns = Emit.linesOf
      ["// Generated by mcp-sync (patterns generator). Do not edit by hand.", "//",
       "// Sources:", "//   s.ts", "//", "// Regenerate with: mcp-sync", ""] := by
    decide
  have hcategories : Emit.Patterns.categories [smallPattern] = Emit.linesOf
      ["export const patternCategories = ['general'] as const;", "",
       "export type PatternCategory = (typeof patternCategories)[number];", ""] := by
    decide
  have htable : Emit.table smallPatterns [smallPattern] = Emit.linesOf
      ["export const patterns: Record<string, CodePattern> = \x7b",
       "  aPattern: \x7b", "    name: 'aPattern',", "    title: 'A',",
       "    category: 'general',", "    language: 'typescript',", "    description: 'd',",
       "    code: \x60x\x60,", "  \x7d,", "\x7d;"] := by
    decide +kernel
  have hpreamble : smallPatterns.preamble [smallPattern]
      = Emit.Patterns.interfaces ++ Emit.Patterns.categories [smallPattern] := rfl
  have hhelpers : smallPatterns.helpers = Emit.Patterns.helpers := rfl
  rw [Emit.moduleCode, hheader, hpreamble, hcategories, htable, hhelpers]

/-- The module of the component is fine. -/
theorem validate_smallComponents :
    Kind.validate (Emit.moduleCode smallComponents [smallComponent]) smallComponents.exportName
      = none := by
  apply validate_eq_none
  · rewrite [moduleCode_smallComponents]
    delta Emit.Components.helpers Emit.Components.interfaces
    -- the text of the module is known, and so are its characters
    apply toList_parts
    all_goals
      repeat apply toList_linesOf_cons rfl
      exact toList_linesOf_nil
  · decide +kernel

theorem validate_smallPatterns :
    Kind.validate (Emit.moduleCode smallPatterns [smallPattern]) smallPatterns.exportName = none := by
  apply validate_eq_none
  · rewrite [moduleCode_smallPatterns]
    delta Emit.Patterns.helpers Emit.Patterns.interfaces
    apply toList_parts
    all_goals
      repeat apply toList_linesOf_cons rfl
      exact toList_linesOf_nil
  · decide +kernel

theorem todoOf_smallComponents (d : Destination) :
    Kind.todoOf smallComponents d [smallComponent]
      = .write ⟨Emit.moduleCode smallComponents [smallComponent], [], 1⟩ := by
  have hkept : Emit.exclusion? [] smallComponent = none := by decide
  exact Kind.todoOf_of_kept d hkept validate_smallComponents

theorem todoOf_smallPatterns (d : Destination) :
    Kind.todoOf smallPatterns d [smallPattern]
      = .write ⟨Emit.moduleCode smallPatterns [smallPattern], [], 1⟩ := by
  have hkept : Emit.exclusion? [] smallPattern = none := by decide
  exact Kind.todoOf_of_kept d hkept validate_smallPatterns

/-! ### Its runs

Where the module of the components goes is left open, so that runs with two such places can be
compared. -/

/-- The plan for the components is to write their module. -/
theorem todo_smallComponents (path : String) (r : ReferenceRun) :
    ∃ m, (planFor smallTree "/p" (smallConfig path) r .component).todo = .write m := by
  obtain ⟨e, he, hrecords⟩ := exists_records (records_small path).1
  have hgenerator : Emit.Components.generator (smallConfig path).components.patterns
      = smallComponents := rfl
  refine ⟨⟨Emit.moduleCode smallComponents [smallComponent], [], 1⟩, ?_⟩
  rw [planFor, he, hgenerator, Kind.planOf, hrecords, todoOf_smallComponents]

/-- The plan for the patterns is to write theirs. -/
theorem todo_smallPatterns (path : String) (r : ReferenceRun) :
    ∃ m, (planFor smallTree "/p" (smallConfig path) r .pattern).todo = .write m := by
  obtain ⟨e, he, hrecords⟩ := exists_records (records_small path).2.2
  have hgenerator : Emit.Patterns.generator (smallConfig path).patterns.patterns
      = smallPatterns := rfl
  refine ⟨⟨Emit.moduleCode smallPatterns [smallPattern], [], 1⟩, ?_⟩
  rw [planFor, he, hgenerator, Kind.planOf, hrecords, todoOf_smallPatterns]

/-- Whatever the quick reference adds to the command, its name remains no key. -/
theorem todo_smallCommands (path : String) (r : ReferenceRun) :
    ∃ message, (planFor smallTree "/p" (smallConfig path) r .command).todo = .leave message := by
  obtain ⟨e, he, hrecords⟩ := exists_records (records_small path).2.1
  have hkey : Emit.isIdentifier (Catalogued.key smallCommand) = false := by decide
  have hsame : Catalogued.key (r.reference.enrichCommand smallCommand)
      = Catalogued.key smallCommand := rfl
  have hexcluded : Emit.exclusion? [] (r.reference.enrichCommand smallCommand)
      = some .invalidKey := by
    rw [Emit.exclusion?, hsame, hkey]
    rfl
  obtain ⟨message, htodo⟩ := Kind.todoOf_of_excluded
    (g := Emit.Commands.generator ((smallConfig path).commands.patterns
      ++ (smallConfig path).commands.reference.toList) r.reference.packages)
    (destination "/p" (smallConfig path) .command) hexcluded
  have hrecords' : r.reference.enrich [smallCommand] = [r.reference.enrichCommand smallCommand] := rfl
  refine ⟨message, ?_⟩
  rw [planFor, he]
  unfold planCommands
  simp only [hrecords, List.isEmpty_cons, Bool.false_eq_true, if_false, Kind.planOf, hrecords', htodo]

theorem isProject_small : IsProject smallTree "/p" := by
  refine ⟨?_, ?_⟩
  · decide
  · decide

/-- The places of the modules. -/
theorem outputPlace_small (k : RecordKind) :
    outputPlace "/p" (smallConfig "b.ts") k
      = match k with
        | .component => ["p", "o", "b.ts"]
        | .command => ["p", "o", "m.ts"]
        | .pattern => ["p", "o", "p.ts"] := by
  cases k <;> decide

/-- The places of the modules when that of the components lies further down. -/
theorem outputPlace_deeper (k : RecordKind) :
    outputPlace "/p" (smallConfig "deep/er/b.ts") k
      = match k with
        | .component => ["p", "o", "deep", "er", "b.ts"]
        | .command => ["p", "o", "m.ts"]
        | .pattern => ["p", "o", "p.ts"] := by
  cases k <;> decide

/-- Nothing is in the way of the modules if no module lies below another, no output leads up, and
the quick reference is no module. -/
theorem clear_smallConfig {path : String}
    (hbelow : ∀ j k, j ≠ k → ¬ outputPlace "/p" (smallConfig path) j
      <+: outputPlace "/p" (smallConfig path) k)
    (hstraight : ∀ k, ".." ∉ Path.components (Path.join "o" ((smallConfig path).source k).output))
    (hreference : ∀ k, ["p", "q.md"] ≠ outputPlace "/p" (smallConfig path) k) :
    Clear smallTree "/p" (smallConfig path) := by
  refine ⟨⟨outputsApart_of_noneBelow hbelow, hstraight, ?_⟩, hbelow⟩
  intro p hp
  cases hp
  have hplace : Path.placeOf (Path.join "/p" "q.md") = ["p", "q.md"] := by decide
  rw [hplace]
  exact ⟨⟨_, by rfl⟩, hreference⟩

/-- Nothing is in the way of the modules. -/
theorem clear_small : Clear smallTree "/p" (smallConfig "b.ts") := by
  apply clear_smallConfig
  · intro j k
    rw [outputPlace_small, outputPlace_small]
    cases j <;> cases k <;> decide
  · intro k
    cases k <;> decide
  · intro k
    rw [outputPlace_small]
    cases k <;> decide

theorem clear_deeper : Clear smallTree "/p" (smallConfig "deep/er/b.ts") := by
  apply clear_smallConfig
  · intro j k
    rw [outputPlace_deeper, outputPlace_deeper]
    cases j <;> cases k <;> decide
  · intro k
    cases k <;> decide
  · intro k
    rw [outputPlace_deeper]
    cases k <;> decide

/-- **The modules of the small project** are that of the component and that of the pattern, whether
they are written or only announced. -/
theorem filesGenerated_smallConfig {path : String} {o : Options}
    (h : Undisturbed smallTree "/p" (smallConfig path) o)
    (hreplace : ∀ text,
      (smallTree.replace (destination "/p" (smallConfig path) .component).fullPath text).2 = none) :
    (run smallTree "/p" (smallConfig path) o).report.stats.filesGenerated
      = [Path.tidy (Path.join "o" path), "o/p.ts"] := by
  obtain ⟨m, hcomponent⟩ :=
    todo_smallComponents path (readReference smallTree "/p" (smallConfig path).commands)
  obtain ⟨message, hcommand⟩ :=
    todo_smallCommands path (referenceOf smallTree "/p" (smallConfig path) o)
  obtain ⟨m', hpattern⟩ :=
    todo_smallPatterns path (readReference smallTree "/p" (smallConfig path).commands)
  -- the module of the patterns goes to one place whatever the path is
  have hdestination : destination "/p" (smallConfig path) .pattern
      = destination "/p" (smallConfig "b.ts") .pattern := rfl
  have hpath : (destination "/p" (smallConfig "b.ts") .pattern).path = "o/p.ts" := by decide
  have hreplace' : (smallTree.replace
      (destination "/p" (smallConfig path) .pattern).fullPath m'.code).2 = none := by
    rw [hdestination]
    exact Tree.replace_written_of_target _ (by decide) (by decide)
  have hfirst := stage_generated h hcomponent (hreplace m.code)
  have hthird := stage_generated h hpattern hreplace'
  have hsecond : (stage (stepOf smallTree "/p" (smallConfig path) o) smallTree .command).ending
      = .untouched message := by
    rw [stage, stepOf, Plan.run, hcommand]
    rfl
  rw [filesGenerated_run]
  simp only [RecordKind.all, List.flatMap_cons, List.flatMap_nil, KindRun.files, hfirst, hsecond,
    hthird]
  rw [hdestination]
  show [Path.tidy (Path.join "o" path), (destination "/p" (smallConfig "b.ts") .pattern).path] = _
  rw [hpath]

/-- **The modules** of the small project. -/
theorem filesGenerated_small (o : Options) :
    (run smallTree "/p" (smallConfig "b.ts") o).report.stats.filesGenerated
      = ["o/b.ts", "o/p.ts"] := by
  have hpath : Path.tidy (Path.join "o" "b.ts") = "o/b.ts" := by decide
  rw [filesGenerated_smallConfig (Or.inr ⟨isProject_small, clear_small⟩), hpath]
  intro text
  apply Tree.replace_written_of_target
  · decide
  · decide

/-- **Its modules** when one of them lies further down. -/
theorem filesGenerated_deeper (o : Options) :
    (run smallTree "/p" (smallConfig "deep/er/b.ts") o).report.stats.filesGenerated
      = ["o/deep/er/b.ts", "o/p.ts"] := by
  have hpath : Path.tidy (Path.join "o" "deep/er/b.ts") = "o/deep/er/b.ts" := by decide
  rw [filesGenerated_smallConfig (Or.inr ⟨isProject_small, clear_deeper⟩), hpath]
  intro text
  apply Tree.replace_written_of_target
  · decide +kernel
  · decide +kernel

end DocCatalog.Sync
