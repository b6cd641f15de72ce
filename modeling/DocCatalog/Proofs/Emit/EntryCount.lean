import DocCatalog.Proofs.Emit.Braces
import DocCatalog.Proofs.Emit.Unambiguous

/-!
# Counting the entries of a module

How many entries a table has can be read off the text of the module: behind the header, the first line
that opens the table is looked for, and from there on braces are counted.

* **`opening`**, **`behindLine`**, **`entryCount`**: how the entries of a text are counted.
* **`Passes`**: a text in front of the table in which no line opens it.
* **`Components.passes_preamble`**, **`Commands.passes_preamble`**, **`Patterns.passes_preamble`**: what
  modules have in front of their tables.
* **`entryCount_moduleCode`**: a module has as many entries as records.
* **`Components.entryCount_generate`**, **`Commands.entryCount_generate`**,
  **`Patterns.entryCount_generate`**: so have the modules that are generated.
-/

namespace DocCatalog.Emit

/-! ## Counting

The count is taken from the text alone. It knows the line that opens the table and the two kinds of
literals, and nothing of records. -/

/-- The line that opens a table. -/
def tableLine (exportName infoType : String) : String :=
  "export const " ++ exportName ++ ": Record<string, " ++ infoType ++ "> = \x7b"

/-- What stands behind the first line with the given text. -/
def behindLine (line : List Char) (atStart : Bool) : List Char → Option (List Char)
  | [] => none
  | c :: s =>
    if atStart && (line ++ ['\n']).isPrefixOf (c :: s) then some ((c :: s).drop (line.length + 1))
    else behindLine line (c == '\n') s

/-- How many entries the table of a module has, as its text shows. -/
def entryCount {ρ : Type} (g : Generator ρ) (code : String) : Nat :=
  match behindLine (tableLine g.exportName g.infoType).toList true
      (code.toList.drop (header g).toList.length) with
  | some table => (table.foldl Reading.next (.inside .plain 0 0)).entries
  | none => 0

/-! ## In front of the table

What stands in front of the table is passed over line by line. A text is passed when no line of it
opens the table, whatever follows. -/

/-- No line of the text is the given one. -/
def Passes (line s : String) : Prop :=
  ∀ rest, behindLine line.toList true (s.toList ++ rest) = behindLine line.toList true rest

theorem passes_empty (line : String) : Passes line "" := fun _ => rfl

/-- Two texts are passed one after the other. -/
theorem Passes.append {line s t : String} (hs : Passes line s) (ht : Passes line t) :
    Passes line (s ++ t) := by
  intro rest
  rw [String.toList_append, List.append_assoc, hs, ht]

theorem Passes.join {line : String} {items : List String} (h : ∀ s ∈ items, Passes line s) :
    Passes line (String.join items) := by
  induction items with
  | nil => exact passes_empty line
  | cons s items ih =>
      rw [String.join_cons]
      exact (h s List.mem_cons_self).append (ih fun t ht => h t (List.mem_cons_of_mem s ht))

/-- A line in which no other one begins is left behind when it is not the one that is looked for. -/
theorem behindLine_skip {line l : List Char} (hl : '\n' ∉ l) (rest : List Char) {atStart : Bool}
    (h : (atStart && (line ++ ['\n']).isPrefixOf (l ++ '\n' :: rest)) = false) :
    behindLine line atStart (l ++ '\n' :: rest) = behindLine line true rest := by
  induction l generalizing atStart with
  | nil =>
      rw [List.nil_append] at h ⊢
      rw [behindLine, h, if_neg Bool.false_ne_true]
      rfl
  | cons c l ih =>
      have hc : (c == '\n') = false := beq_false_of_ne fun heq => hl (heq ▸ List.mem_cons_self)
      rw [List.cons_append] at h ⊢
      rw [behindLine, h, if_neg Bool.false_ne_true, hc]
      exact ih (fun hmem => hl (List.mem_cons_of_mem c hmem)) (Bool.false_and _)

/-- **One line** is passed when it is another one than that which opens the table. -/
theorem passes_line {line l : String} (hline : '\n' ∉ line.toList) (hl : '\n' ∉ l.toList)
    (hne : l ≠ line) : Passes line (l ++ "\n") := by
  intro rest
  have htext : (l ++ "\n").toList ++ rest = l.toList ++ '\n' :: rest := by
    rw [String.toList_append, List.append_assoc]
    rfl
  rw [htext]
  refine behindLine_skip hl rest ?_
  rw [Bool.true_and, Bool.eq_false_iff]
  intro hprefix
  obtain ⟨s, hs⟩ := List.isPrefixOf_iff_prefix.mp hprefix
  rw [List.append_assoc] at hs
  exact hne (String.toList_inj.mp (eq_of_append_stop hline hl hs).1).symm

/-- The line itself is found where it comes first. -/
theorem behindLine_found (line rest : List Char) :
    behindLine line true (line ++ '\n' :: rest) = some rest := by
  cases line with
  | nil => simp [behindLine]
  | cons c line =>
      have hprefix : (c :: line ++ ['\n']).isPrefixOf (c :: (line ++ '\n' :: rest)) = true :=
        List.isPrefixOf_iff_prefix.mpr ⟨rest, by simp⟩
      rw [List.cons_append, behindLine, hprefix]
      simp

/-! ## Lines in front of the table

The interfaces of a module are fixed lines. Its lists have literals of any texts in them, but they
are indented, and the line that opens the table is not. -/

/-- The text stays on its line. -/
def OneLine (s : String) : Prop := '\n' ∉ s.toList

instance (s : String) : Decidable (OneLine s) := inferInstanceAs (Decidable (¬ _))

/-- Texts without line breaks put together have none. -/
theorem OneLine.append {s t : String} (hs : OneLine s) (ht : OneLine t) : OneLine (s ++ t) := by
  rw [OneLine, String.toList_append, List.mem_append]
  exact fun h => h.elim hs ht

/-- Of a text that is given letter by letter. -/
theorem oneLine_ofList {letters : List Char} (h : '\n' ∉ letters) : OneLine (String.ofList letters) := by
  rwa [OneLine, String.toList_ofList]

/-- Indentation has no line break in it. -/
theorem oneLine_spaces (n : Nat) : OneLine (spaces n) := by
  intro hmem
  rw [toList_spaces] at hmem
  exact absurd (List.eq_of_mem_replicate hmem) (by decide)

/-- No line ends in a quoted literal. -/
theorem oneLine_quote (s : String) : OneLine (quote s) := by
  have hchar : ∀ c, '\n' ∉ escapeSingleChar c := by
    intro c
    unfold escapeSingleChar
    split
    case h_9 hline _ _ _ _ =>
      intro hmem
      exact hline (List.mem_singleton.mp hmem).symm
    all_goals decide
  have hbody : OneLine (String.ofList (escapeSingle s.toList)) := by
    rw [OneLine, String.toList_ofList]
    intro hmem
    obtain ⟨c, -, hc⟩ := List.mem_flatMap.mp hmem
    exact hchar c hc
  exact ((show OneLine "'" by decide).append hbody).append (by decide)

/-- A line that opens a table begins a line of its own, without a blank in front. -/
structure Opens (line : String) : Prop where
  oneLine : OneLine line
  ne_empty : line ≠ ""
  head : line.toList.head? ≠ some ' '

section Lines

variable {line : String} (hline : Opens line)

include hline

/-- Fixed texts are gone through line by line. -/
theorem passes_linesOf_cons {l : String} {lines : List String} (hl : OneLine l) (hne : l ≠ line)
    (hlines : Passes line (linesOf lines)) : Passes line (linesOf (l :: lines)) := by
  rw [linesOf, List.map_cons, String.join_cons]
  exact (passes_line hline.oneLine hl hne).append hlines

theorem passes_paragraph {l : String} (hl : OneLine l) (hne : l ≠ line) :
    Passes line (linesOf [l, ""]) :=
  passes_linesOf_cons hline hl hne
    (passes_linesOf_cons hline (by decide) hline.ne_empty.symm (passes_empty line))

/-- **An indented line is passed**, whatever it says, since the line that opens the table begins
with a letter. -/
theorem passes_indented (indent : Nat) {s : String} (hs : OneLine s) :
    Passes line (spaces (indent + 1) ++ s ++ "\n") := by
  refine passes_line hline.oneLine ((oneLine_spaces _).append hs) ?_
  rintro rfl
  have hhead := hline.head
  rw [String.toList_append, toList_spaces, List.replicate_succ] at hhead
  exact hhead rfl

/-- An item of a list stands on an indented line. -/
theorem passes_itemLine (indent : Nat) {item : String} (h : OneLine item) :
    Passes line (itemLine (indent + 1) item) := by
  have hsplit : itemLine (indent + 1) item = spaces (indent + 1) ++ (item ++ ",") ++ "\n" := by
    have hend : ",\n" = "," ++ "\n" := by decide
    simp only [itemLine, hend, String.append_assoc]
  rw [hsplit]
  exact passes_indented hline indent (h.append (by decide))

theorem passes_sourceField (indent : Nat) {name value : String} (hname : OneLine name)
    (hvalue : OneLine value) : Passes line (sourceField (indent + 1) name value) := by
  have hsplit : sourceField (indent + 1) name value
      = spaces (indent + 1) ++ (name ++ ": " ++ value ++ ",") ++ "\n" := by
    have hend : ",\n" = "," ++ "\n" := by decide
    simp only [sourceField, hend, String.append_assoc]
  rw [hsplit]
  exact passes_indented hline indent
    (((hname.append (by decide)).append hvalue).append (by decide))

/-- A text is a literal, which has no line breaks. -/
theorem passes_strField (indent : Nat) (name : String) (hname : OneLine name) (value : String) :
    Passes line (strField (indent + 1) name value) :=
  passes_sourceField hline indent hname (oneLine_quote value)

/-- The items of a list stand deeper, its brackets as deep as the field. -/
theorem passes_strListField (indent : Nat) (name : String) (hname : OneLine name)
    (items : List String) : Passes line (strListField (indent + 1) name items) := by
  unfold strListField listField
  split
  · exact passes_sourceField hline indent hname (by decide)
  · have hopen : ": [\n" = ": [" ++ "\n" := by decide
    have hclose : "],\n" = "]," ++ "\n" := by decide
    have hitems : ∀ s ∈ items.map (fun s => itemLine (indent + 1 + 2) (quote s)), Passes line s := by
      intro s hs
      obtain ⟨item, -, rfl⟩ := List.mem_map.mp hs
      exact passes_itemLine hline (indent + 2) (oneLine_quote item)
    have hfirst := passes_indented hline indent (hname.append (show OneLine ": [" by decide))
    have hlast := passes_indented hline indent (show OneLine "]," by decide)
    rw [hopen, hclose]
    simpa only [String.append_assoc] using (hfirst.append (.join hitems)).append hlast

/-- The braces of an object are indented like its fields. -/
theorem passes_objectItem (indent : Nat) {fields : String} (h : Passes line fields) :
    Passes line (objectItem (indent + 1) fields) := by
  have hopen : "\x7b\n" = "\x7b" ++ "\n" := by decide
  have hclose : "\x7d,\n" = "\x7d," ++ "\n" := by decide
  have hfirst := passes_indented hline indent (show OneLine "\x7b" by decide)
  have hlast := passes_indented hline indent (show OneLine "\x7d," by decide)
  rw [objectItem, hopen, hclose]
  simpa only [String.append_assoc] using (hfirst.append h).append hlast

end Lines

/-! ## Preambles

Every kind of module has its own. The names in them come from records, so that each is gone through
with its literals left open. -/

namespace Components

/-- The line that opens the table of components. -/
def tableLine : String := Emit.tableLine "components" "ComponentInfo"

theorem tableLine_eq : tableLine = "export const components: Record<string, ComponentInfo> = \x7b" := rfl

theorem opens_tableLine : Opens tableLine := by
  rw [tableLine_eq]
  exact ⟨oneLine_ofList (by simp), by simp, by simp⟩

/-- The declarations of types are no tables. -/
theorem passes_interfaces : Passes tableLine interfaces := by
  unfold interfaces
  -- line by line; no lines at all are not to be unfolded into one more
  repeat
    with_reducible
      refine passes_linesOf_cons opens_tableLine (oneLine_ofList (by simp)) (by simp [tableLine_eq]) ?_
  exact passes_empty tableLine

/-- Each category is a line of its own. -/
theorem passes_categories (records : List ComponentRecord) :
    Passes tableLine (categories records) := by
  have htype : Passes tableLine
      "export type ComponentCategory = (typeof componentCategories)[number];\n\n" :=
    passes_paragraph opens_tableLine
      (l := "export type ComponentCategory = (typeof componentCategories)[number];")
      (oneLine_ofList (by simp)) (by simp [tableLine_eq])
  unfold categories
  refine Passes.append ?_ htype
  split
  · exact passes_paragraph opens_tableLine (l := "export const componentCategories = [] as const;")
      (oneLine_ofList (by simp)) (by simp [tableLine_eq])
  · have hfirst : Passes tableLine "export const componentCategories = [\n" :=
      passes_line opens_tableLine.oneLine (l := "export const componentCategories = [")
        (oneLine_ofList (by simp)) (by simp [tableLine_eq])
    have hlast : Passes tableLine "] as const;\n\n" :=
      passes_paragraph opens_tableLine (l := "] as const;") (by decide) (by simp [tableLine_eq])
    refine (hfirst.append (.join fun s hs => ?_)).append hlast
    obtain ⟨c, -, rfl⟩ := List.mem_map.mp hs
    exact passes_itemLine opens_tableLine 1 (oneLine_quote c)

/-- **No line in front of the components** opens their table. -/
theorem passes_preamble (records : List ComponentRecord) :
    Passes tableLine (interfaces ++ categories records) :=
  passes_interfaces.append (passes_categories records)

end Components

namespace Patterns

/-- The line that opens the table of patterns. -/
def tableLine : String := Emit.tableLine "patterns" "CodePattern"

theorem tableLine_eq : tableLine = "export const patterns: Record<string, CodePattern> = \x7b" := rfl

theorem opens_tableLine : Opens tableLine := by
  rw [tableLine_eq]
  exact ⟨oneLine_ofList (by simp), by simp, by simp⟩

/-- The declarations of types are no tables. -/
theorem passes_interfaces : Passes tableLine interfaces := by
  unfold interfaces
  repeat
    with_reducible
      refine passes_linesOf_cons opens_tableLine (oneLine_ofList (by simp)) (by simp [tableLine_eq]) ?_
  exact passes_empty tableLine

/-- Texts without line breaks joined by commas have none. -/
theorem oneLine_intercalate {items : List String} (h : ∀ s ∈ items, OneLine s) :
    OneLine (", ".intercalate items) := by
  induction items with
  | nil => decide
  | cons s items ih =>
      cases items with
      | nil => exact h s List.mem_cons_self
      | cons t items =>
          rw [String.intercalate_cons_cons]
          have hrest := ih fun r hr => h r (List.mem_cons_of_mem s hr)
          exact ((h s List.mem_cons_self).append (by decide)).append hrest

/-- All categories are on one line, which begins as no table does. -/
theorem passes_categories (records : List PatternRecord) :
    Passes tableLine (categories records) := by
  have htype : Passes tableLine
      "export type PatternCategory = (typeof patternCategories)[number];\n\n" :=
    passes_paragraph opens_tableLine
      (l := "export type PatternCategory = (typeof patternCategories)[number];")
      (oneLine_ofList (by simp)) (by simp [tableLine_eq])
  have hempty : Passes tableLine "\n" :=
    passes_line opens_tableLine.oneLine (l := "") (by decide) opens_tableLine.ne_empty.symm
  have hclose : "] as const;\n\n" = "] as const;" ++ "\n" ++ "\n" := by decide
  unfold categories
  refine Passes.append ?_ htype
  rw [hclose]
  -- the names are literals on one line, whatever they are
  have hnames : OneLine (", ".intercalate ((sortedNames (records.map (·.category))).map quote)) := by
    refine oneLine_intercalate fun s hs => ?_
    obtain ⟨c, -, rfl⟩ := List.mem_map.mp hs
    exact oneLine_quote c
  generalize ", ".intercalate ((sortedNames (records.map (·.category))).map quote) = names at hnames
  have hline : OneLine ("export const patternCategories = [" ++ names ++ "] as const;") :=
    ((show OneLine "export const patternCategories = [" from oneLine_ofList (by simp)).append hnames).append
      (by decide)
  -- this line and that which opens the table differ before any name
  have hne : "export const patternCategories = [" ++ names ++ "] as const;" ≠ tableLine := by
    have hapart : Apart "export const patternCategories = [".toList tableLine.toList := by
      simp [Apart, tableLine_eq]
    intro heq
    have htext := congrArg String.toList heq
    rw [String.toList_append, String.toList_append, List.append_assoc] at htext
    exact hapart.append_ne _ [] (htext.trans (List.append_nil _).symm)
  simpa only [String.append_assoc] using (passes_line opens_tableLine.oneLine hline hne).append hempty

/-- **No line in front of the patterns** opens their table. -/
theorem passes_preamble (records : List PatternRecord) :
    Passes tableLine (interfaces ++ categories records) :=
  passes_interfaces.append (passes_categories records)

end Patterns

namespace Commands

/-- The line that opens the table of commands. -/
def tableLine : String := Emit.tableLine "commands" "CommandInfo"

theorem tableLine_eq : tableLine = "export const commands: Record<string, CommandInfo> = \x7b" := rfl

theorem opens_tableLine : Opens tableLine := by
  rw [tableLine_eq]
  exact ⟨oneLine_ofList (by simp), by simp, by simp⟩

/-- The declarations of types are no tables. -/
theorem passes_interfaces : Passes tableLine interfaces := by
  unfold interfaces
  repeat
    with_reducible
      refine passes_linesOf_cons opens_tableLine (oneLine_ofList (by simp)) (by simp [tableLine_eq]) ?_
  exact passes_empty tableLine

/-- The row of a package is an object. -/
theorem passes_packageItem (p : PackageInfo) : Passes tableLine (packageItem p) := by
  refine passes_objectItem opens_tableLine 1 ?_
  have hname := passes_strField opens_tableLine 3 "name" (by decide) p.name
  have hdescription :=
    passes_strField opens_tableLine 3 "description" (by decide) p.description
  have hfeatures := passes_strListField opens_tableLine 3 "features" (by decide) p.features
  have huseCases := passes_strListField opens_tableLine 3 "useCases" (by decide) p.useCases
  have hcommand := passes_strField opens_tableLine 3 "command" (by decide) p.command
  exact (((hname.append hdescription).append hfeatures).append huseCases).append hcommand

theorem passes_troubleshootingItem (t : TroubleshootingItem) :
    Passes tableLine (troubleshootingItem t) := by
  refine passes_objectItem opens_tableLine 1 ?_
  have hproblem := passes_strField opens_tableLine 3 "problem" (by decide) t.problem
  have hsolution := passes_strField opens_tableLine 3 "solution" (by decide) t.solution
  have hexample := passes_strField opens_tableLine 3 "example" (by decide) t.example_
  exact (hproblem.append hsolution).append hexample

/-- **No line in front of the commands** opens their table. -/
theorem passes_preamble (packages : List PackageInfo) : Passes tableLine (preamble packages) := by
  have hpackages : Passes tableLine "export const packages: PackageInfo[] = [\n" :=
    passes_line opens_tableLine.oneLine (l := "export const packages: PackageInfo[] = [")
      (oneLine_ofList (by simp)) (by simp [tableLine_eq])
  have htroubles : Passes tableLine "export const troubleshooting: TroubleshootingItem[] = [\n" :=
    passes_line opens_tableLine.oneLine
      (l := "export const troubleshooting: TroubleshootingItem[] = [")
      (oneLine_ofList (by simp)) (by simp [tableLine_eq])
  have hclose : Passes tableLine "];\n\n" :=
    passes_paragraph opens_tableLine (l := "];") (by decide) (by simp [tableLine_eq])
  have hitems : Passes tableLine (String.join (packages.map packageItem)) := by
    refine .join fun s hs => ?_
    obtain ⟨p, -, rfl⟩ := List.mem_map.mp hs
    exact passes_packageItem p
  have htroubleItems : Passes tableLine (String.join (troubleshooting.map troubleshootingItem)) := by
    refine .join fun s hs => ?_
    obtain ⟨t, -, rfl⟩ := List.mem_map.mp hs
    exact passes_troubleshootingItem t
  exact (((((passes_interfaces.append hpackages).append hitems).append hclose).append htroubles).append
    htroubleItems).append hclose

end Commands

/-! ## Modules

Behind the line that opens the table the braces are counted. Every entry opens one and closes it
again, and the brace behind the last one ends the table. -/

section

variable {ρ : Type} [Catalogued ρ] {g : Generator ρ}

/-- No quote and no brace is part of a key. -/
theorem isTame_of_isIdentifierPart {c : Char} (h : isIdentifierPart c = true) : isTame c = true := by
  rw [isTame, Bool.not_eq_true', Bool.eq_false_iff]
  intro hmem
  have hparts : ['\'', '\x60', '\x7b', '\x7d'].all (!isIdentifierPart ·) = true := rfl
  have hnot := List.all_eq_true.mp hparts c (List.contains_iff_mem.mp hmem)
  rw [h] at hnot
  cases hnot

theorem isTame_of_isIdentifier {name : String} (h : isIdentifier name = true) : IsTame name := by
  refine List.all_eq_true.mpr fun c hc => isTame_of_isIdentifierPart ?_
  unfold isIdentifier at h
  split at h
  · cases h
  · next first rest hname =>
      simp only [Bool.and_eq_true, List.all_eq_true] at h
      rw [hname] at hc
      rcases List.mem_cons.mp hc with rfl | hrest
      · -- an identifier begins with a letter, a bar or a dollar sign, and each of them may stand in
        -- it
        have hstart := h.1.1
        simp only [isIdentifierStart, Bool.or_eq_true] at hstart
        simp only [isIdentifierPart, Char.isAlphanum, Bool.or_eq_true]
        rcases hstart with (halpha | hunderscore) | hdollar
        · exact Or.inl (Or.inl (Or.inl halpha))
        · exact Or.inl (Or.inr hunderscore)
        · exact Or.inr hdollar
      · exact h.1.2 c hrest

/-- **An entry is counted once**, when its fields are neutral. -/
theorem past_entry {r : ρ} (hkey : isIdentifier (Catalogued.key r) = true)
    (hfields : Neutral (g.fields r)) (n : Nat) :
    (Reading.inside .plain 0 n).past (entry g r) = .inside .plain 0 (n + 1) := by
  have hopen : (Reading.inside .plain 0 n).past ": \x7b\n" = .inside .plain 1 (n + 1) := rfl
  have hclose : (Reading.inside .plain 1 (n + 1)).past "  \x7d,\n" = .inside .plain 0 (n + 1) := rfl
  rw [entry, Reading.past_append, Reading.past_append, Reading.past_append, Reading.past_append,
    past_of_isTame (s := "  ") (by decide), past_of_isTame (isTame_of_isIdentifier hkey), hopen,
    hfields, hclose]

/-- **Entries are counted** one by one: the reader is between two of them again behind each. -/
theorem foldl_entries {records : List ρ}
    (h : ∀ r ∈ records, isIdentifier (Catalogued.key r) = true ∧ Neutral (g.fields r)) (n : Nat) :
    (records.flatMap fun r => (entry g r).toList).foldl Reading.next (.inside .plain 0 n)
      = .inside .plain 0 (n + records.length) := by
  induction records generalizing n with
  | nil => rfl
  | cons r records ih =>
      obtain ⟨hkey, hfields⟩ := h r List.mem_cons_self
      have hentry := past_entry hkey hfields n
      rw [Reading.past] at hentry
      rw [List.flatMap_cons, List.foldl_append, hentry,
        ih (fun r hr => h r (List.mem_cons_of_mem _ hr)), List.length_cons, Nat.add_assoc,
        Nat.add_comm 1]

theorem foldl_behind (s : List Char) (n : Nat) :
    s.foldl Reading.next (.behind n) = .behind n := by
  induction s with
  | nil => rfl
  | cons c s ih => exact ih

/-- **A module has as many entries as records**, where the table is not opened before it and the
fields are neutral. -/
theorem entryCount_moduleCode {records : List ρ}
    (hpreamble : Passes (tableLine g.exportName g.infoType) (g.preamble records))
    (h : ∀ r ∈ records, isIdentifier (Catalogued.key r) = true ∧ Neutral (g.fields r)) :
    entryCount g (moduleCode g records) = records.length := by
  have hopen : ("export const " ++ g.exportName ++ ": Record<string, " ++ g.infoType
      ++ "> = \x7b\n").toList = (tableLine g.exportName g.infoType).toList ++ ['\n'] := by
    have hend : "> = \x7b\n".toList = "> = \x7b".toList ++ ['\n'] := by decide
    unfold tableLine
    simp only [String.toList_append, hend, List.append_assoc]
  -- the header is dropped, the preamble passed, and the first line of the table found
  have hbehind : behindLine (tableLine g.exportName g.infoType).toList true
      ((moduleCode g records).toList.drop (header g).toList.length)
      = some ((records.flatMap fun r => (entry g r).toList)
          ++ (['\x7d', ';', '\n'] ++ g.helpers.toList)) := by
    rw [toList_moduleCode, List.drop_left, hpreamble, hopen, List.append_assoc, List.singleton_append]
    exact behindLine_found _ _
  have hclose : ∀ n, ['\x7d', ';', '\n'].foldl Reading.next (.inside .plain 0 n) = .behind n :=
    fun _ => rfl
  rw [entryCount, hbehind]
  simp only [List.foldl_append, foldl_entries h 0, hclose, foldl_behind, Nat.zero_add]
  rfl

/-- The same of a module that is generated, where `ok` records have neutral fields. -/
theorem entryCount_generate (ok : ρ → Prop) {records : List ρ}
    (hpreamble : ∀ records, Passes (tableLine g.exportName g.infoType) (g.preamble records))
    (hfields : ∀ r, ok r → Neutral (g.fields r)) (hok : ∀ r ∈ records, ok r) :
    entryCount g (generate g records).code = (generate g records).recordCount := by
  refine entryCount_moduleCode (hpreamble _) fun r hr => ?_
  obtain ⟨hmem, hkey⟩ := mem_kept hr
  exact ⟨hkey, hfields r (hok r hmem)⟩

end

/-- **The module of the components** has as many entries as it says. -/
theorem Components.entryCount_generate (sources : List String) (records : List ComponentRecord) :
    entryCount (generator sources) (generate (generator sources) records).code
      = (generate (generator sources) records).recordCount :=
  Emit.entryCount_generate (fun _ => True) passes_preamble (fun r _ => neutral_fields r)
    fun _ _ => trivial

/-- **The module of the commands** has, as long as numbers among the defaults are written without
quotes and braces. -/
theorem Commands.entryCount_generate (sources : List String) (packages : List PackageInfo)
    {records : List CommandRecord} (h : ∀ c ∈ records, HasTameNumbers c) :
    entryCount (generator sources packages) (generate (generator sources packages) records).code
      = (generate (generator sources packages) records).recordCount :=
  Emit.entryCount_generate HasTameNumbers (fun _ => passes_preamble packages)
    (fun _ => neutral_fields) h

/-- **The module of the patterns** has as many entries as it says. -/
theorem Patterns.entryCount_generate (sources : List String) (records : List PatternRecord) :
    entryCount (generator sources) (generate (generator sources) records).code
      = (generate (generator sources) records).recordCount :=
  Emit.entryCount_generate (fun _ => True) passes_preamble (fun r _ => neutral_fields r)
    fun _ _ => trivial

end DocCatalog.Emit
