import DocCatalog.Proofs.Emit.Unambiguous

/-!
# Every record is decided about

A record gets an entry or a warning, and the entries have different keys.

* **`length_kept_add_length_warnings`**: entries and warnings together are as many as the records.
* **`nodup_keys_kept`**: no key is there twice.
* **`mem_warnings`**: what the warnings are.
* **`Tabulates`**, **`tabulates_generate`**: the table has an entry for each record that is kept.
-/

namespace DocCatalog.Emit

variable {ρ : Type} [Catalogued ρ]

/-- A record that is left out takes no key. -/
theorem classify_of_excluded {taken : List String} {r : ρ} {e : Exclusion}
    (h : exclusion? taken r = some e) (records : List ρ) :
    classify taken (r :: records) = (r, some e) :: classify taken records := by
  simp only [classify, h]

/-- A record with an entry takes its key. -/
theorem classify_of_kept {taken : List String} {r : ρ} (h : exclusion? taken r = none)
    (records : List ρ) :
    classify taken (r :: records) = (r, none) :: classify (Catalogued.key r :: taken) records := by
  simp only [classify, h]

/-- A record that is kept has a key of its own. -/
theorem key_not_mem_of_kept {taken : List String} {r : ρ} (h : exclusion? taken r = none) :
    Catalogued.key r ∉ taken := by
  intro hmem
  unfold exclusion? at h
  split at h
  · cases h
  · split at h
    · cases h
    · rw [List.contains_iff_mem.mpr hmem] at h
      cases h

/-- **Every record is kept or left out with a warning.** -/
theorem length_classify (taken : List String) (records : List ρ) :
    (keptOf (classify taken records)).length + (warningsOf (classify taken records)).length
      = records.length := by
  -- along the records: each decision adds to one of the two lists
  induction records generalizing taken with
  | nil => rfl
  | cons r records ih =>
      cases h : exclusion? taken r with
      | some e =>
          have hrest := ih taken
          rw [classify_of_excluded h, List.length_cons, ← hrest]
          simp only [keptOf, warningsOf, List.filterMap_cons, Option.isNone_some, Bool.false_eq_true,
            if_false, Option.map_some, List.length_cons]
          omega
      | none =>
          have hrest := ih (Catalogued.key r :: taken)
          rw [classify_of_kept h, List.length_cons, ← hrest]
          simp only [keptOf, warningsOf, List.filterMap_cons, Option.isNone_none, if_true,
            Option.map_none, List.length_cons]
          omega

/-- The keys of the records that are kept are new and different. -/
theorem keys_classify (taken : List String) (records : List ρ) :
    ((keptOf (classify taken records)).map Catalogued.key).Nodup
      ∧ ∀ r ∈ keptOf (classify taken records), Catalogued.key r ∉ taken := by
  induction records generalizing taken with
  | nil => exact ⟨List.nodup_nil, fun _ h => (nomatch h)⟩
  | cons r records ih =>
      -- a record that is left out takes no key, one that is kept takes its own from all behind it
      cases h : exclusion? taken r with
      | some e =>
          rw [classify_of_excluded h]
          exact ih taken
      | none =>
          obtain ⟨hnodup, hnew⟩ := ih (Catalogued.key r :: taken)
          have hkept : keptOf (classify taken (r :: records))
              = r :: keptOf (classify (Catalogued.key r :: taken) records) := by
            rw [classify_of_kept h]
            rfl
          rw [hkept, List.map_cons, List.nodup_cons]
          refine ⟨⟨?_, hnodup⟩, ?_⟩
          · intro hmem
            obtain ⟨s, hs, hkey⟩ := List.mem_map.mp hmem
            exact hnew s hs (hkey ▸ List.mem_cons_self)
          · intro s hs
            rcases List.mem_cons.mp hs with rfl | hs
            · exact key_not_mem_of_kept h
            · exact fun hmem => hnew s hs (List.mem_cons_of_mem _ hmem)

/-- **No key is there twice.** -/
theorem nodup_keys_kept (records : List ρ) : ((kept records).map Catalogued.key).Nodup :=
  (keys_classify [] (sorted records)).1

theorem recordCount_generate (g : Generator ρ) (records : List ρ) :
    (generate g records).recordCount = (kept records).length := rfl

/-- **Every record** has an entry or a warning. -/
theorem length_kept_add_length_warnings (g : Generator ρ) (records : List ρ) :
    (kept records).length + (generate g records).warnings.length = records.length := by
  have hlength := length_classify [] (sorted records)
  rw [sorted, List.length_mergeSort] at hlength
  exact hlength

/-- Without records there is nothing to say and nothing to keep. -/
theorem generate_nil (g : Generator ρ) :
    (generate g []).warnings = [] ∧ (generate g []).recordCount = 0 := by
  have hlength := length_kept_add_length_warnings g ([] : List ρ)
  rw [← recordCount_generate g, List.length_nil, Nat.add_eq_zero_iff] at hlength
  exact ⟨List.length_eq_zero_iff.mp hlength.2, hlength.1⟩

/-- The module of one record that gets an entry. -/
theorem generate_of_kept {r : ρ} (g : Generator ρ) (h : exclusion? [] r = none) :
    generate g [r] = ⟨moduleCode g [r], [], 1⟩ := by
  unfold generate
  rw [sorted, List.mergeSort_singleton, classify_of_kept h]
  rfl

/-- The module of one record that gets none: there is nothing in its table. -/
theorem recordCount_of_excluded {r : ρ} {e : Exclusion} (g : Generator ρ)
    (h : exclusion? [] r = some e) : (generate g [r]).recordCount = 0 := by
  unfold generate
  rw [sorted, List.mergeSort_singleton, classify_of_excluded h]
  rfl

/-- A warning says of a record why it was left out. -/
theorem mem_warnings {g : Generator ρ} {records : List ρ} {message : String}
    (h : message ∈ (generate g records).warnings) :
    ∃ (r : ρ) (e : Exclusion), message = exclusionMessage r e := by
  obtain ⟨⟨r, e?⟩, -, hmessage⟩ := List.mem_filterMap.mp h
  obtain ⟨e, -, rfl⟩ := Option.map_eq_some_iff.mp hmessage
  exact ⟨r, e, rfl⟩

/-! ## Tables

A table has its entries in the order of the records that are kept, one for each, and nothing between
them. -/

/-- The code is that of a module whose table has an entry for each of the records, with a key that is
an identifier and that no other entry has. -/
structure Tabulates (g : Generator ρ) (records : List ρ) (code : String) : Prop where
  keys : (records.map Catalogued.key).Nodup
  identifiers : ∀ r ∈ records, isIdentifier (Catalogued.key r) = true
  code : code = header g ++ g.preamble records
    ++ ("export const " ++ g.exportName ++ ": Record<string, " ++ g.infoType ++ "> = \x7b\n"
      ++ String.join (records.map fun r =>
        "  " ++ Catalogued.key r ++ ": \x7b\n" ++ g.fields r ++ "  \x7d,\n")
      ++ "\x7d;\n")
    ++ g.helpers

/-- **The table of a module** has the records that are kept. -/
theorem tabulates_generate (g : Generator ρ) (records : List ρ) :
    Tabulates g (kept records) (generate g records).code where
  keys := nodup_keys_kept records
  identifiers _ hr := (mem_kept hr).2
  code := rfl

end DocCatalog.Emit
