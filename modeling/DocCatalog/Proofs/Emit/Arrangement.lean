import DocCatalog.Proofs.Emit.Unambiguous
import Mathlib.Data.List.Sort

/-!
# Modules that do not depend on the arrangement of their records

Records with different names have one order only, and nothing of what is decided or written depends on
where they were declared. So a module is the same whatever the order in which its records were found,
and wherever they were found.

* **`sorted_eq_of_perm`**: records with different names have one order.
* **`Forgets`**: what a generator and the decisions on records do not depend on.
* **`kept_map`**, **`moduleCode_map`**: what may be forgotten may be forgotten first.
* **`IgnoresArrangement`**: a module that depends on neither.
* **`generate_arrangement`**: the modules of all three kinds.
-/

namespace DocCatalog.Emit

variable {ρ : Type} [Catalogued ρ]

/-! ## The order of names

Records are put in order by their names, and only where names are equal by something else. So with
different names there is one order. -/

/-- First the names are compared, then the keys. -/
theorem precedes_eq (a b : ρ) :
    precedes a b
      = (compareLex (compareOn Catalogued.name) (compareOn Catalogued.key) a b).isLE := rfl

theorem precedes_trans (a b c : ρ) (hab : precedes a b = true) (hbc : precedes b c = true) :
    precedes a c = true := by
  rw [precedes_eq] at hab hbc ⊢
  exact Std.TransCmp.isLE_trans hab hbc

theorem precedes_total (a b : ρ) : (precedes a b || precedes b a) = true := by
  have hswap := @Std.OrientedCmp.eq_swap _
    (compareLex (compareOn Catalogued.name) (compareOn Catalogued.key)) _ b a
  rw [precedes_eq, precedes_eq, hswap]
  cases compareLex (compareOn Catalogued.name) (compareOn Catalogued.key) a b <;> rfl

/-- Only records of one name precede each other. -/
theorem name_eq_of_precedes {a b : ρ} (hab : precedes a b = true) (hba : precedes b a = true) :
    Catalogued.name a = Catalogued.name b := by
  rw [precedes_eq] at hab hba
  have heq := Std.OrientedCmp.isLE_antisymm hab hba
  exact Std.LawfulEqOrd.eq_of_compare (compareLex_eq_eq.mp heq).1

/-- **Records with different names have one order.** -/
theorem sorted_eq_of_perm {records records' : List ρ} (h : records.Perm records')
    (hnames : (records.map Catalogued.name).Nodup) : sorted records = sorted records' := by
  have hperm : (sorted records).Perm (sorted records') :=
    (List.mergeSort_perm _ _).trans (h.trans (List.mergeSort_perm _ _).symm)
  refine hperm.eq_of_pairwise ?_ (List.pairwise_mergeSort precedes_trans precedes_total records)
    (List.pairwise_mergeSort precedes_trans precedes_total records')
  intro a b ha hb hab hba
  have ha' := List.mem_mergeSort.mp ha
  have hb' := h.mem_iff.mpr (List.mem_mergeSort.mp hb)
  exact List.inj_on_of_nodup_map hnames ha' hb' (name_eq_of_precedes hab hba)

/-! ## What may be forgotten

Something of a record may be forgotten if neither the name nor the key nor what is missing nor any
field of its entry depends on it. Then it may be forgotten before the records are put in order. -/

/-- Neither what is decided on a record nor what is written of it depends on what `bare` removes. -/
structure Forgets (g : Generator ρ) (bare : ρ → ρ) : Prop where
  name : ∀ r, Catalogued.name (bare r) = Catalogued.name r
  key : ∀ r, Catalogued.key (bare r) = Catalogued.key r
  missing : ∀ r, Catalogued.missing? (bare r) = Catalogued.missing? r
  fields : ∀ r, g.fields (bare r) = g.fields r
  preamble : ∀ records, g.preamble (records.map bare) = g.preamble records

/-- The module of records with different names depends neither on their order nor on what `bare`
removes from them. -/
def IgnoresArrangement (g : Generator ρ) (bare : ρ → ρ) : Prop :=
  ∀ records records' : List ρ, (records.map Catalogued.name).Nodup →
    (records.map bare).Perm (records'.map bare) →
    (generate g records).code = (generate g records').code
      ∧ (generate g records).recordCount = (generate g records').recordCount

section Forgets

variable {g : Generator ρ} {bare : ρ → ρ} (h : Forgets g bare)

include h

theorem sorted_map (records : List ρ) : sorted (records.map bare) = (sorted records).map bare := by
  refine (List.map_mergeSort fun a _ b _ => ?_).symm
  rw [precedes, precedes, h.name, h.name, h.key, h.key]

theorem exclusion?_bare (taken : List String) (r : ρ) :
    exclusion? taken (bare r) = exclusion? taken r := by
  rw [exclusion?, exclusion?, h.key, h.missing]

/-- The keys that are taken are the same, and so are all decisions. -/
theorem keptOf_classify_map (taken : List String) (records : List ρ) :
    keptOf (classify taken (records.map bare)) = (keptOf (classify taken records)).map bare := by
  induction records generalizing taken with
  | nil => rfl
  | cons r records ih =>
      rw [List.map_cons, classify, classify, exclusion?_bare h, h.key]
      cases exclusion? taken r with
      | some e => exact ih taken
      | none => exact congrArg (bare r :: ·) (ih (Catalogued.key r :: taken))

theorem kept_map (records : List ρ) : kept (records.map bare) = (kept records).map bare := by
  rw [kept, sorted_map h, keptOf_classify_map h, kept]

theorem moduleCode_map (kept : List ρ) : moduleCode g (kept.map bare) = moduleCode g kept := by
  have hentry : entry g ∘ bare = entry g := by
    funext r
    rw [Function.comp, entry, entry, h.key, h.fields]
  have htable : table g (kept.map bare) = table g kept := by
    delta table
    rw [List.map_map, hentry]
  delta moduleCode
  rw [h.preamble, htable]

/-- **Records may be put in order, and what may be forgotten is forgotten first.** -/
theorem Forgets.ignoresArrangement : IgnoresArrangement g bare := by
  intro records records' hnames hperm
  have hnames' : ((records.map bare).map Catalogued.name).Nodup := by
    have hname : Catalogued.name ∘ bare = Catalogued.name := funext h.name
    rwa [List.map_map, hname]
  have hkept : (kept records).map bare = (kept records').map bare := by
    rw [← kept_map h, ← kept_map h, kept, sorted_eq_of_perm hperm hnames', kept]
  have hcode : moduleCode g (kept records) = moduleCode g (kept records') := by
    rw [← moduleCode_map h (kept records), hkept, moduleCode_map h]
  have hcount := congrArg List.length hkept
  rw [List.length_map, List.length_map] at hcount
  exact ⟨hcode, hcount⟩

end Forgets

/-! ## The three kinds

No module says where a record was found. -/

/-- Components forget where they were found. -/
theorem forgets_components (sources : List String) :
    Forgets (Components.generator sources) fun r => { r with provenance := .nowhere } := by
  refine ⟨fun _ => rfl, fun _ => rfl, fun _ => rfl, fun _ => rfl, fun records => ?_⟩
  have hpreamble : ∀ records, (Components.generator sources).preamble records
      = Components.interfaces ++ Components.categories records := fun _ => rfl
  have hnames : (records.map fun r => { r with provenance := .nowhere }).map
      ComponentRecord.category = records.map ComponentRecord.category := List.map_map
  have hcategories : Components.categories (records.map fun r => { r with provenance := .nowhere })
      = Components.categories records := by
    delta Components.categories
    rw [hnames]
  rw [hpreamble, hpreamble, hcategories]

theorem forgets_commands (sources : List String) (packages : List PackageInfo) :
    Forgets (Commands.generator sources packages) fun r => { r with provenance := .nowhere } :=
  ⟨fun _ => rfl, fun _ => rfl, fun _ => rfl, fun _ => rfl, fun _ => rfl⟩

theorem forgets_patterns (sources : List String) :
    Forgets (Patterns.generator sources) fun r => { r with provenance := .nowhere } := by
  refine ⟨fun _ => rfl, fun _ => rfl, fun _ => rfl, fun _ => rfl, fun records => ?_⟩
  have hpreamble : ∀ records, (Patterns.generator sources).preamble records
      = Patterns.interfaces ++ Patterns.categories records := fun _ => rfl
  have hnames : (records.map fun r => { r with provenance := .nowhere }).map
      PatternRecord.category = records.map PatternRecord.category := List.map_map
  have hcategories : Patterns.categories (records.map fun r => { r with provenance := .nowhere })
      = Patterns.categories records := by
    delta Patterns.categories
    rw [hnames]
  rw [hpreamble, hpreamble, hcategories]

/-- **Modules do not depend on the arrangement of their records.** Where two lists of records with
different names are the same in some order and but for where the records were declared, their modules
have the same code and as many entries. -/
theorem generate_arrangement :
    (∀ sources, IgnoresArrangement (Components.generator sources)
        fun r => { r with provenance := .nowhere })
      ∧ (∀ sources packages, IgnoresArrangement (Commands.generator sources packages)
        fun r => { r with provenance := .nowhere })
      ∧ ∀ sources, IgnoresArrangement (Patterns.generator sources)
        fun r => { r with provenance := .nowhere } := by
  refine ⟨fun sources => ?_, fun sources packages => ?_, fun sources => ?_⟩
  · exact (forgets_components sources).ignoresArrangement
  · exact (forgets_commands sources packages).ignoresArrangement
  · exact (forgets_patterns sources).ignoresArrangement

/-- Commands of which the first two share a key, and the last one has no usage. -/
def sharedCommands (file : String) : List CommandRecord :=
  [⟨"db:push", none, "d", "db:push", [], [], [], [], ⟨file, 1⟩⟩,
   ⟨"db-push", none, "e", "db-push", [], [], [], [], ⟨file, 2⟩⟩,
   ⟨"init", none, "f", "", [], [], [], [], ⟨file, 3⟩⟩]

/-- Commands two of which have the same key, in another order and from another file. -/
theorem generate_arrangement_shared :
    ((sharedCommands "a.js").map Catalogued.name).Nodup
      ∧ ((sharedCommands "a.js").map fun r => { r with provenance := .nowhere }).Perm
          ((sharedCommands "b.js").reverse.map fun r => { r with provenance := .nowhere })
      ∧ (generate (Commands.generator [] []) (sharedCommands "a.js")).code
          = (generate (Commands.generator [] []) (sharedCommands "b.js").reverse).code
      ∧ (generate (Commands.generator [] []) (sharedCommands "a.js")).recordCount
          = (generate (Commands.generator [] []) (sharedCommands "b.js").reverse).recordCount := by
  have hnames : ((sharedCommands "a.js").map Catalogued.name).Nodup := by decide
  have hperm : ((sharedCommands "a.js").map fun r => { r with provenance := .nowhere }).Perm
      ((sharedCommands "b.js").reverse.map fun r => { r with provenance := .nowhere }) := by
    decide
  exact ⟨hnames, hperm, generate_arrangement.2.1 [] [] _ _ hnames hperm⟩

end DocCatalog.Emit
