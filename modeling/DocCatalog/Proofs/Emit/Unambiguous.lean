import DocCatalog.Proofs.Emit.Entries

/-!
# Modules that tell their records

What stands in front of the table tells where it ends, the table tells its entries, and an entry tells
its key and its record. So two lists of records that have the same module agree in what it says.

* **`ClearPreamble`**: what stands in front of a table tells where it ends.
* **`tells_entry`**: an entry tells its key beside its fields.
* **`kept`**, **`said`**: the records that have entries, and what these say.
* **`said_of_code`**, **`generate_unambiguous`**: modules are unambiguous.
-/

namespace DocCatalog.Emit

/-! ## Categories

In front of the table of components and of patterns the categories are listed, so that what stands
there depends on the records. Where this list ends can be told from what stands there. -/

/-- What stands in front of the table tells where it ends. -/
def ClearPreamble {ρ : Type} (g : Generator ρ) : Prop :=
  ∀ (records records' : List ρ) {x y : List Char},
    (g.preamble records).toList ++ x = (g.preamble records').toList ++ y → x = y

/-- Items that begin with one character are no text that begins with another. -/
theorem never_of_head {α : Type} {ok : α → Prop} {write : α → List Char} {c d : Char}
    (hcd : c ≠ d) (hwrite : ∀ a, (write a).head? = some c) (rest : List Char) :
    NeverBegins ok write (d :: rest) := by
  intro a _ x y h
  have hhead := congrArg List.head? h
  rw [List.head?_append, hwrite] at hhead
  exact hcd (Option.some.inj hhead)

/-- Categories that are one on a line, up to a bracket. -/
theorem eq_of_categoryLines {names names' : List String} {x y : List Char}
    (h : (if names.isEmpty then [] else
        '\n' :: names.flatMap fun c => (itemLine 2 (quote c)).toList) ++ ']' :: x
      = (if names'.isEmpty then [] else
        '\n' :: names'.flatMap fun c => (itemLine 2 (quote c)).toList) ++ ']' :: y) : x = y := by
  have hitem : TellsAll fun c => (itemLine 2 (quote c)).toList := tells_itemLine 2 tells_quote
  have hhead : ∀ c, (itemLine 2 (quote c)).toList.head? = some ' ' := by
    intro c
    rw [toList_itemLine]
    rfl
  -- only an empty list has the bracket on the line where it begins
  cases names with
  | nil =>
      cases names' with
      | nil => exact (List.cons.inj h).2
      | cons name' names' => exact absurd (List.cons.inj h).1 (by decide)
  | cons name names =>
      cases names' with
      | nil => exact absurd (List.cons.inj h).1 (by decide)
      | cons name' names' =>
          have hlines := (List.cons.inj h).2
          exact (hitem.flatMap (never_of_head (by decide) hhead []) (fun _ _ => trivial)
            (fun _ _ => trivial) hlines).2

/-- All names but the first have a comma in front. -/
theorem toList_categoryLine (name : String) (names : List String) :
    (", ".intercalate ((name :: names).map quote)).toList
      = (quote name).toList ++ names.flatMap fun c => [',', ' '] ++ (quote c).toList := by
  have hcomma : ", ".toList = [',', ' '] := by decide
  induction names generalizing name with
  | nil => simp
  | cons name' names ih =>
      rw [List.map_cons, List.map_cons, String.intercalate_cons_cons, String.toList_append,
        String.toList_append, ← List.map_cons, ih, List.flatMap_cons, hcomma]
      simp only [List.append_assoc]

/-- Categories that are all on one line, up to a bracket. -/
theorem eq_of_categoryLine {names names' : List String} {x y : List Char}
    (h : (", ".intercalate (names.map quote)).toList ++ ']' :: x
      = (", ".intercalate (names'.map quote)).toList ++ ']' :: y) : x = y := by
  have hitem : TellsAll fun c => [',', ' '] ++ (quote c).toList :=
    tells_quote.between [',', ' '] [] fun _ => by rw [List.append_nil]
  have hnil : (", ".intercalate ([].map quote)).toList = [] := by decide
  -- the first name cannot be taken for the bracket
  have hquote : ∀ (name : String) {s t : List Char}, (quote name).toList ++ s ≠ ']' :: t := by
    intro name s t heq
    have hhead := congrArg List.head? heq
    rw [toList_quote] at hhead
    exact absurd hhead (by simp)
  cases names with
  | nil =>
      rw [hnil] at h
      cases names' with
      | nil =>
          rw [hnil] at h
          exact (List.cons.inj h).2
      | cons name' names' =>
          rw [toList_categoryLine, List.append_assoc] at h
          exact absurd h.symm (hquote name')
  | cons name names =>
      rw [toList_categoryLine, List.append_assoc] at h
      cases names' with
      | nil =>
          rw [hnil] at h
          exact absurd h (hquote name)
      | cons name' names' =>
          rw [toList_categoryLine, List.append_assoc] at h
          obtain ⟨-, hrest⟩ := tells_quote.eq h
          exact (hitem.flatMap (never_of_head (by decide) (fun _ => rfl) []) (fun _ _ => trivial)
            (fun _ _ => trivial) hrest).2

/-- The list begins on the line of its name in both layouts. -/
theorem toList_componentCategories (names : List String) :
    (if names.isEmpty then "export const componentCategories = [] as const;\n\n"
      else "export const componentCategories = [\n"
        ++ String.join (names.map fun c => itemLine 2 (quote c)) ++ "] as const;\n\n").toList
    = "export const componentCategories = [".toList
        ++ ((if names.isEmpty then [] else
              '\n' :: names.flatMap fun c => (itemLine 2 (quote c)).toList)
            ++ ']' :: " as const;\n\n".toList) := by
  cases names with
  | nil => decide
  | cons name names =>
      have hopen : "export const componentCategories = [\n".toList
          = "export const componentCategories = [".toList ++ ['\n'] := by decide
      have hclose : "] as const;\n\n".toList = ']' :: " as const;\n\n".toList := by decide
      simp only [List.isEmpty_cons, Bool.false_eq_true, if_false, String.toList_append,
        String.toList_join, List.flatMap_map, List.append_assoc, List.cons_append, List.nil_append,
        hopen, hclose]

/-- **In front of the components** it is clear where the table begins. -/
theorem clearPreamble_components (sources : List String) :
    ClearPreamble (Components.generator sources) := by
  have hpreamble : ∀ records, (Components.generator sources).preamble records
      = Components.interfaces ++ Components.categories records := fun _ => rfl
  intro records records' x y h
  simp only [hpreamble, Components.categories, String.toList_append, toList_componentCategories,
    List.append_assoc, List.cons_append, List.append_cancel_left_eq] at h
  have hrest := eq_of_categoryLines h
  simp only [List.append_cancel_left_eq] at hrest
  exact hrest

/-- **In front of the patterns** it is, too. -/
theorem clearPreamble_patterns (sources : List String) :
    ClearPreamble (Patterns.generator sources) := by
  have hpreamble : ∀ records, (Patterns.generator sources).preamble records
      = Patterns.interfaces ++ Patterns.categories records := fun _ => rfl
  have hclose : "] as const;\n\n".toList = ']' :: " as const;\n\n".toList := by decide
  intro records records' x y h
  rw [hpreamble, hpreamble] at h
  delta Patterns.categories at h
  simp only [String.toList_append, hclose, List.append_assoc, List.cons_append,
    List.append_cancel_left_eq] at h
  have hrest := eq_of_categoryLine h
  simp only [List.append_cancel_left_eq] at hrest
  exact hrest

/-- **In front of the commands** nothing depends on the records. -/
theorem clearPreamble_commands (sources : List String) (packages : List PackageInfo) :
    ClearPreamble (Commands.generator sources packages) := by
  have hpreamble : ∀ records, (Commands.generator sources packages).preamble records
      = Commands.preamble packages := fun _ => rfl
  intro records records' x y h
  rw [hpreamble, hpreamble] at h
  exact List.append_cancel_left h

/-! ## Entries

An entry begins with its key, which is followed by a colon, and no colon is in a key. -/

/-- No colon is part of an identifier. -/
theorem colon_not_mem {name : String} (h : isIdentifier name = true) : ':' ∉ name.toList := by
  have hpart : isIdentifierPart ':' = false := by decide
  have hstart : isIdentifierStart ':' = false := by decide
  unfold isIdentifier at h
  split at h
  · cases h
  · next c r hname =>
      simp only [Bool.and_eq_true, List.all_eq_true] at h
      rw [hname]
      intro hmem
      rcases List.mem_cons.mp hmem with rfl | hrest
      · rw [hstart] at h
        exact Bool.false_ne_true h.1.1
      · have hcolon := h.1.2 ':' hrest
        rw [hpart] at hcolon
        cases hcolon

section

variable {ρ : Type} [Catalogued ρ] {g : Generator ρ} {ok : ρ → Prop} {shown : ρ → ρ}

theorem toList_entry (g : Generator ρ) (r : ρ) :
    (entry g r).toList
      = ' ' :: ' ' :: ((Catalogued.key r).toList
          ++ ':' :: ' ' :: '\x7b' :: '\n' :: ((g.fields r).toList ++ closing 2 '\x7d')) := by
  have hopen : ": \x7b\n".toList = [':', ' ', '\x7b', '\n'] := by decide
  have hclose : "  \x7d,\n".toList = closing 2 '\x7d' := by decide
  have hindent : "  ".toList = [' ', ' '] := by decide
  simp only [entry, String.toList_append, hopen, hclose, hindent, List.append_assoc,
    List.cons_append, List.nil_append]

/-- **An entry tells its key** beside what its fields tell: no key has a colon in it. -/
theorem tells_entry
    (hfields : Tells ok shown fun r => (g.fields r).toList ++ closing 2 '\x7d') :
    Tells (fun r => isIdentifier (Catalogued.key r) = true ∧ ok r)
      (fun r => (Catalogued.key r, shown r)) fun r => (entry g r).toList := by
  rintro a b ⟨hkey, ha⟩ ⟨hkey', hb⟩ x y h
  simp only [toList_entry, List.append_assoc, List.cons_append, List.cons.injEq, true_and] at h
  obtain ⟨hkeys, hrest⟩ := eq_of_append_stop (colon_not_mem hkey) (colon_not_mem hkey') h
  simp only [List.cons.injEq, true_and] at hrest
  rw [← List.append_assoc, ← List.append_assoc] at hrest
  obtain ⟨hshown, hxy⟩ := hfields ha hb hrest
  exact ⟨Prod.ext (String.toList_inj.mp hkeys) hshown, hxy⟩

/-! ## Modules

From the module the table is read, from the table the entries, and from an entry the record. -/

/-- The records that have entries. -/
def kept (records : List ρ) : List ρ := keptOf (classify [] (sorted records))

/-- The entries of a module, where `shown` is what they say of a record. -/
def said (shown : ρ → ρ) (records : List ρ) : List (String × ρ) :=
  (kept records).map fun r => (Catalogued.key r, shown r)

/-- A record that is kept is one of the records and has an identifier for its key. -/
theorem mem_keptOf_classify {taken : List String} {records : List ρ} {r : ρ}
    (h : r ∈ keptOf (classify taken records)) :
    r ∈ records ∧ isIdentifier (Catalogued.key r) = true := by
  -- along the records, whatever keys have been taken before
  induction records generalizing taken with
  | nil => cases h
  | cons s records ih =>
      unfold classify at h
      cases hexclusion : exclusion? taken s with
      | some e =>
          simp only [hexclusion, keptOf, List.filterMap_cons, Option.isNone_some,
            Bool.false_eq_true, if_false] at h
          obtain ⟨hmem, hkey⟩ := ih h
          exact ⟨List.mem_cons_of_mem s hmem, hkey⟩
      | none =>
          simp only [hexclusion, keptOf, List.filterMap_cons, Option.isNone_none, if_true] at h
          rcases List.mem_cons.mp h with rfl | hrest
          · refine ⟨List.mem_cons_self, ?_⟩
            unfold exclusion? at hexclusion
            split at hexclusion
            · cases hexclusion
            · next hkey => simpa using hkey
          · obtain ⟨hmem, hkey⟩ := ih hrest
            exact ⟨List.mem_cons_of_mem s hmem, hkey⟩

theorem mem_kept {records : List ρ} {r : ρ} (h : r ∈ kept records) :
    r ∈ records ∧ isIdentifier (Catalogued.key r) = true := by
  obtain ⟨hmem, hkey⟩ := mem_keptOf_classify h
  exact ⟨List.mem_mergeSort.mp hmem, hkey⟩

/-- The parts of a module, one behind the other. -/
theorem toList_moduleCode (g : Generator ρ) (records : List ρ) :
    (moduleCode g records).toList
      = (header g).toList ++ ((g.preamble records).toList
          ++ (("export const " ++ g.exportName ++ ": Record<string, " ++ g.infoType
              ++ "> = \x7b\n").toList
            ++ (records.flatMap (fun r => (entry g r).toList)
              ++ (['\x7d', ';', '\n'] ++ g.helpers.toList)))) := by
  have hclose : "\x7d;\n".toList = ['\x7d', ';', '\n'] := by decide
  delta moduleCode table
  simp only [String.toList_append, String.toList_join, List.flatMap_map, hclose, List.append_assoc]

/-- **A module tells its entries** when its preamble and its fields do. -/
theorem said_of_code (hpreamble : ClearPreamble g)
    (hfields : Tells ok shown fun r => (g.fields r).toList ++ closing 2 '\x7d')
    {records records' : List ρ} (hok : ∀ r ∈ records, ok r) (hok' : ∀ r ∈ records', ok r)
    (h : (generate g records).code = (generate g records').code) :
    said shown records = said shown records' := by
  have hcode : moduleCode g (kept records) = moduleCode g (kept records') := h
  have htext := congrArg String.toList hcode
  rw [toList_moduleCode, toList_moduleCode] at htext
  -- header, preamble and the first line of the table fall away
  have htable := List.append_cancel_left (hpreamble _ _ (List.append_cancel_left htext))
  have hhead : ∀ r, (entry g r).toList.head? = some ' ' := by
    intro r
    rw [toList_entry]
    rfl
  have hentries := (tells_entry hfields).flatMap (never_of_head (by decide) hhead [';', '\n'])
    (fun r hr => ⟨(mem_kept hr).2, hok r (mem_kept hr).1⟩)
    (fun r hr => ⟨(mem_kept hr).2, hok' r (mem_kept hr).1⟩) htable
  exact hentries.1

end

/-- **Modules are unambiguous.** Where two lists of records have the same module, their entries agree
one by one in their keys and in all that is said of a record. The numbers among the defaults of
options have to be plain, as they are written without quotes. -/
theorem generate_unambiguous :
    (∀ (sources : List String) (records records' : List ComponentRecord),
        (generate (Components.generator sources) records).code
          = (generate (Components.generator sources) records').code →
        said ComponentRecord.shown records = said ComponentRecord.shown records')
      ∧ (∀ (sources : List String) (packages : List PackageInfo)
          (records records' : List CommandRecord),
        (∀ c ∈ records, c.IsPlain) → (∀ c ∈ records', c.IsPlain) →
        (generate (Commands.generator sources packages) records).code
          = (generate (Commands.generator sources packages) records').code →
        said CommandRecord.shown records = said CommandRecord.shown records')
      ∧ (∀ (sources : List String) (records records' : List PatternRecord),
        (generate (Patterns.generator sources) records).code
          = (generate (Patterns.generator sources) records').code →
        said PatternRecord.shown records = said PatternRecord.shown records') := by
  refine ⟨?_, ?_, ?_⟩
  · intro sources records records' h
    exact said_of_code (clearPreamble_components sources) Components.tells_fields
      (fun _ _ => trivial) (fun _ _ => trivial) h
  · intro sources packages records records' hplain hplain' h
    exact said_of_code (clearPreamble_commands sources packages) Commands.tells_fields hplain hplain' h
  · intro sources records records' h
    exact said_of_code (clearPreamble_patterns sources) Patterns.tells_fields
      (fun _ _ => trivial) (fun _ _ => trivial) h

/-- A command with a number among its defaults, declared on the given line. -/
def countCommand (line : Nat) : CommandRecord where
  name := "count"
  alias? := none
  description := "d"
  usage := "count"
  arguments := []
  options := [⟨"limit", none, .number, some (.number "5"), "d", []⟩]
  examples := []
  notes := []
  provenance := ⟨"count.js", line⟩

/-- The default of its option is written plainly. -/
theorem isPlain_count (line : Nat) : ∀ c ∈ [countCommand line], c.IsPlain := by
  intro c hc o ho d hd text htext
  cases List.mem_singleton.mp hc
  cases List.mem_singleton.mp ho
  cases hd
  cases htext
  exact ⟨by decide, by decide, by decide, by decide⟩

/-- The line in the source is not in the module. -/
theorem code_count :
    (generate (Commands.generator [] []) [countCommand 1]).code
      = (generate (Commands.generator [] []) [countCommand 2]).code := by
  have hkept : kept [countCommand 1] = [countCommand 1] ∧ kept [countCommand 2] = [countCommand 2] := by
    decide +kernel
  have hentry : entry (Commands.generator [] []) (countCommand 1)
      = entry (Commands.generator [] []) (countCommand 2) := by
    decide +kernel
  have hcode : ∀ records, (generate (Commands.generator [] []) records).code
      = moduleCode (Commands.generator [] []) (kept records) := fun _ => rfl
  have hpreamble : ∀ records, (Commands.generator [] []).preamble records = Commands.preamble [] :=
    fun _ => rfl
  rw [hcode, hcode, hkept.1, hkept.2, ← String.toList_inj, toList_moduleCode, toList_moduleCode,
    hpreamble, hpreamble, List.flatMap_singleton, List.flatMap_singleton, hentry]

/-- Records that differ in their places only have the same module, and it says the same of both. -/
theorem generate_unambiguous_count :
    (∀ c ∈ [countCommand 1], c.IsPlain) ∧ (∀ c ∈ [countCommand 2], c.IsPlain)
      ∧ (generate (Commands.generator [] []) [countCommand 1]).code
          = (generate (Commands.generator [] []) [countCommand 2]).code
      ∧ said CommandRecord.shown [countCommand 1] = said CommandRecord.shown [countCommand 2] :=
  ⟨isPlain_count 1, isPlain_count 2, code_count,
    generate_unambiguous.2.1 [] [] _ _ (isPlain_count 1) (isPlain_count 2) code_count⟩

end DocCatalog.Emit
