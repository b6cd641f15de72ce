import DocCatalog.Extract.Merge
import Mathlib.Algebra.GroupWithZero.Nat

/-!
# The first record of every name

Of the records that share a name the first one is kept, and each of the others is reported with the
place of that first one. What has been met is the same as the first record of its name among all that
stand before, and this is what goes from record to record and from file to file.

* **`occurrences`**: all records in the order of discovery, each with its file.
* **`firsts`**, **`repeats`**: the records before which their name has not been met, and the others.
* **`Knows`**: the names that have been met are those of the records before.
* **`keepFirst_eq`**, **`mergeFrom_records`**, **`mergeFrom_diagnostics`**, **`mergeFrom_files`**: one
  file, and all files from one on.
* **`merge_keepsFirst`**: what merging keeps and what it reports.
-/

namespace DocCatalog.Extract

variable {ρ : Type}

/-! ## What there is to merge

All records in the order of discovery, with what is to be kept and reported of them. Nothing here
depends on how far merging has come. -/

/-- A record with the file that it is in: the number of the file in the order of discovery, and its
path. -/
structure Occurrence (ρ : Type) where
  file : Nat
  path : String
  record : ρ

/-- The records of one file. -/
def occurrencesIn (file : Nat) (path : String) (records : List ρ) : List (Occurrence ρ) :=
  records.map (⟨file, path, ·⟩)

/-- All records in the order of discovery, where the files are numbered from `start` on. -/
def occurrencesFrom (start : Nat) (results : List (String × FileResult ρ)) : List (Occurrence ρ) :=
  (results.zipIdx start).flatMap fun ((path, result), i) => occurrencesIn i path result.records

/-- All records in the order of discovery. -/
def occurrences (results : List (String × FileResult ρ)) : List (Occurrence ρ) :=
  occurrencesFrom 0 results

/-- Every occurrence with all that stand before it, `before` being in front of all. -/
def withBefore (before : List (Occurrence ρ)) :
    List (Occurrence ρ) → List (List (Occurrence ρ) × Occurrence ρ)
  | [] => []
  | o :: rest => (before, o) :: withBefore (before ++ [o]) rest

variable [Catalogued ρ]

/-- The name under which the record is kept. -/
def Occurrence.name (o : Occurrence ρ) : String := Catalogued.name o.record

/-- Where the record was found. -/
def Occurrence.provenance (o : Occurrence ρ) : Provenance := Catalogued.provenance o.record

/-- The first occurrence of a name. -/
def firstNamed? (name : String) (all : List (Occurrence ρ)) : Option (Occurrence ρ) :=
  all.find? (·.name == name)

/-- The occurrences of names that are not met before. -/
def firsts (before all : List (Occurrence ρ)) : List (Occurrence ρ) :=
  (withBefore before all).filterMap fun (earlier, o) =>
    if (firstNamed? o.name earlier).isNone then some o else none

/-- The occurrences of names that are met before, each behind the first one of its name. -/
def repeats (before all : List (Occurrence ρ)) : List (Occurrence ρ × Occurrence ρ) :=
  (withBefore before all).filterMap fun (earlier, o) => (firstNamed? o.name earlier).map (·, o)

/-- What is reported of a record whose name was met before. -/
def repeatNotice (first again : Occurrence ρ) : Diagnostic where
  file := again.path
  line := some again.provenance.line
  severity := .error
  message := "duplicate " ++ (Catalogued.kind ρ).noun ++ " `" ++ again.name
    ++ "`: first defined at " ++ first.provenance.text
    ++ ", also defined at " ++ again.provenance.text

/-- What is said of a file with its number, where `kept` are the occurrences that are kept of all
files. -/
def summary (kept : List (Occurrence ρ)) (file : (String × FileResult ρ) × Nat) : FileSummary where
  path := file.1.1
  records := kept.countP (·.file == file.2)
  succeeded := file.1.2.succeeded

/-- What becomes of the results of all files when the first record of every name is kept. -/
structure KeepsFirst (results : List (String × FileResult ρ)) (e : Extraction ρ) : Prop where
  distinct : (e.records.map Catalogued.name).Nodup
  among : e.records.Sublist (results.flatMap fun r => r.2.records)
  records : e.records = (firsts [] (occurrences results)).map (·.record)
  /-- Every record is kept or reported. -/
  accounted : e.records.length + (repeats [] (occurrences results)).length
    = (results.flatMap fun r => r.2.records).length
  /-- Beside what the files report there is one error for each record that is not kept. -/
  diagnostics : e.diagnostics.Perm ((results.flatMap fun r => r.2.diagnostics)
    ++ (repeats [] (occurrences results)).map fun (first, again) => repeatNotice first again)
  files : e.files = results.zipIdx.map (summary (firsts [] (occurrences results)))
  total : (e.files.map (·.records)).sum = e.records.length

/-! ## Occurrences

Occurrences are numbered by their files, which come one after the other. -/

section Occurrences

omit [Catalogued ρ]

/-- Behind some occurrences these are among those before. -/
theorem withBefore_append (before a b : List (Occurrence ρ)) :
    withBefore before (a ++ b) = withBefore before a ++ withBefore (before ++ a) b := by
  induction a generalizing before with
  | nil => simp [withBefore]
  | cons o a ih => simp [withBefore, ih]

/-- The occurrences of the first file stand in front. -/
theorem occurrencesFrom_cons (start : Nat) (path : String) (result : FileResult ρ)
    (rest : List (String × FileResult ρ)) :
    occurrencesFrom start ((path, result) :: rest)
      = occurrencesIn start path result.records ++ occurrencesFrom (start + 1) rest := rfl

theorem map_record_occurrencesFrom (start : Nat) (results : List (String × FileResult ρ)) :
    (occurrencesFrom start results).map (·.record) = results.flatMap fun r => r.2.records := by
  induction results generalizing start with
  | nil => rfl
  | cons r rest ih =>
      rw [occurrencesFrom_cons, List.map_append, ih, List.flatMap_cons, occurrencesIn, List.map_map]
      exact congrArg (· ++ _) (List.map_id _)

/-- An occurrence bears the number of its file. -/
theorem file_of_mem_occurrencesIn {file : Nat} {path : String} {records : List ρ}
    {o : Occurrence ρ} (h : o ∈ occurrencesIn file path records) : o.file = file := by
  obtain ⟨r, -, rfl⟩ := List.mem_map.mp h
  rfl

/-- No occurrence is of a file before the first one. -/
theorem le_file_of_mem_occurrencesFrom {start : Nat} {results : List (String × FileResult ρ)}
    {o : Occurrence ρ} (h : o ∈ occurrencesFrom start results) : start ≤ o.file := by
  obtain ⟨⟨r, i⟩, hr, ho⟩ := List.mem_flatMap.mp h
  rw [file_of_mem_occurrencesIn ho]
  exact List.le_snd_of_mem_zipIdx hr

/-- A file of which the first records are kept, in front of the others. -/
theorem summary_append_of_own {own behind : List (Occurrence ρ)} {i : Nat} (path : String)
    (result : FileResult ρ) (hown : ∀ o ∈ own, o.file = i) (hbehind : ∀ o ∈ behind, i < o.file) :
    summary (own ++ behind) ((path, result), i) = ⟨path, own.length, result.succeeded⟩ := by
  have hall : own.countP (·.file == i) = own.length :=
    List.countP_eq_length.mpr fun o ho => beq_iff_eq.mpr (hown o ho)
  have hnone : behind.countP (·.file == i) = 0 :=
    List.countP_eq_zero.mpr fun o ho hi => Nat.ne_of_gt (hbehind o ho) (eq_of_beq hi)
  simp only [summary, List.countP_append, hall, hnone, Nat.add_zero]

/-- Occurrences of files before do not count for this one. -/
theorem summary_append_of_behind {own behind : List (Occurrence ρ)}
    {file : (String × FileResult ρ) × Nat} (hown : ∀ o ∈ own, o.file < file.2) :
    summary (own ++ behind) file = summary behind file := by
  have hnone : own.countP (·.file == file.2) = 0 :=
    List.countP_eq_zero.mpr fun o ho hfile => Nat.ne_of_lt (hown o ho) (eq_of_beq hfile)
  simp only [summary, List.countP_append, hnone, Nat.zero_add]

end Occurrences

/-! ## First and repeated occurrences

Whether an occurrence is the first of its name depends on those before it only, so both lists can be
put together piece by piece. -/

@[simp] theorem firsts_nil (before : List (Occurrence ρ)) : firsts before [] = [] := rfl

@[simp] theorem repeats_nil (before : List (Occurrence ρ)) : repeats before [] = [] := rfl

/-- The first ones of two parts, the second of which has the first part before it. -/
theorem firsts_append (before a b : List (Occurrence ρ)) :
    firsts before (a ++ b) = firsts before a ++ firsts (before ++ a) b := by
  rw [firsts, withBefore_append, List.filterMap_append, firsts, firsts]

theorem repeats_append (before a b : List (Occurrence ρ)) :
    repeats before (a ++ b) = repeats before a ++ repeats (before ++ a) b := by
  rw [repeats, withBefore_append, List.filterMap_append, repeats, repeats]

variable {before : List (Occurrence ρ)} {o : Occurrence ρ}

/-- A name that has not been met makes a first occurrence. -/
theorem firsts_cons_of_new (h : firstNamed? o.name before = none) (all : List (Occurrence ρ)) :
    firsts before (o :: all) = o :: firsts (before ++ [o]) all := by
  simp [firsts, withBefore, h]

/-- A name that has been met makes none. -/
theorem firsts_cons_of_met {first : Occurrence ρ} (h : firstNamed? o.name before = some first)
    (all : List (Occurrence ρ)) : firsts before (o :: all) = firsts (before ++ [o]) all := by
  simp [firsts, withBefore, h]

/-- A name that has not been met is not repeated. -/
theorem repeats_cons_of_new (h : firstNamed? o.name before = none) (all : List (Occurrence ρ)) :
    repeats before (o :: all) = repeats (before ++ [o]) all := by
  simp [repeats, withBefore, h]

/-- A name that has been met is, and goes back to its first occurrence. -/
theorem repeats_cons_of_met {first : Occurrence ρ} (h : firstNamed? o.name before = some first)
    (all : List (Occurrence ρ)) :
    repeats before (o :: all) = (first, o) :: repeats (before ++ [o]) all := by
  simp [repeats, withBefore, h]

/-- The order of discovery is kept. -/
theorem firsts_sublist (before all : List (Occurrence ρ)) : (firsts before all).Sublist all := by
  induction all generalizing before with
  | nil => exact List.Sublist.refl []
  | cons o all ih =>
      cases h : firstNamed? o.name before with
      | none =>
          rw [firsts_cons_of_new h]
          exact (ih _).cons_cons o
      | some first =>
          rw [firsts_cons_of_met h]
          exact (ih _).cons o

/-- Of the occurrences of any sort, each is a first or a repeated one. -/
theorem countP_firsts_add_countP_repeats (p : Occurrence ρ → Bool) (before all : List (Occurrence ρ)) :
    (firsts before all).countP p + (repeats before all).countP (fun r => p r.2) = all.countP p := by
  induction all generalizing before with
  | nil => rfl
  | cons o all ih =>
      have hrest := ih (before ++ [o])
      cases h : firstNamed? o.name before with
      | none =>
          rw [firsts_cons_of_new h, repeats_cons_of_new h, List.countP_cons, List.countP_cons]
          omega
      | some first =>
          rw [firsts_cons_of_met h, repeats_cons_of_met h, List.countP_cons, List.countP_cons]
          dsimp only
          omega

/-- **Every occurrence** is either the first of its name or repeats it. -/
theorem length_firsts_add_length_repeats (before all : List (Occurrence ρ)) :
    (firsts before all).length + (repeats before all).length = all.length := by
  have hcount := countP_firsts_add_countP_repeats (fun _ => true) before all
  simpa only [List.countP_true] using hcount

/-- A first occurrence has another name than all that stand before. -/
theorem name_ne_of_mem_firsts {all : List (Occurrence ρ)} {x : Occurrence ρ}
    (h : x ∈ firsts before all) : ∀ o ∈ before, o.name ≠ x.name := by
  induction all generalizing before with
  | nil => cases h
  | cons y all ih =>
      have hrest : x ∈ firsts (before ++ [y]) all → ∀ o ∈ before, o.name ≠ x.name :=
        fun hx o ho => ih hx o (List.mem_append_left _ ho)
      cases hy : firstNamed? y.name before with
      | some first =>
          rw [firsts_cons_of_met hy] at h
          exact hrest h
      | none =>
          rw [firsts_cons_of_new hy] at h
          rcases List.mem_cons.mp h with rfl | hx
          · intro o ho
            simpa using List.find?_eq_none.mp hy o ho
          · exact hrest hx

/-- **No name is kept twice**: each first occurrence differs in its name from all before, and is
itself before all others. -/
theorem nodup_names_firsts (before all : List (Occurrence ρ)) :
    ((firsts before all).map Occurrence.name).Nodup := by
  induction all generalizing before with
  | nil => exact List.nodup_nil
  | cons o all ih =>
      cases h : firstNamed? o.name before with
      | some first =>
          rw [firsts_cons_of_met h]
          exact ih _
      | none =>
          rw [firsts_cons_of_new h, List.map_cons, List.nodup_cons]
          refine ⟨?_, ih _⟩
          rintro hmem
          obtain ⟨x, hx, hname⟩ := List.mem_map.mp hmem
          exact name_ne_of_mem_firsts hx o (List.mem_append_right _ List.mem_cons_self) hname.symm

/-! ## One file

What goes from file to file is the list of names that have been met. It has to know the first
occurrence of each of them, and no more than that is asked of it. -/

/-- The names that have been met are those of the occurrences before, each with the provenance of
the first one. -/
def Knows (seen : Seen) (before : List (Occurrence ρ)) : Prop :=
  ∀ name, seen.lookup name = (firstNamed? name before).map Occurrence.provenance

theorem Knows.nil : Knows [] ([] : List (Occurrence ρ)) := fun _ => rfl

/-- The last occurrence is the first of its name if there is none before. -/
theorem firstNamed?_concat (name : String) (before : List (Occurrence ρ)) (o : Occurrence ρ) :
    firstNamed? name (before ++ [o])
      = (firstNamed? name before).or (if o.name = name then some o else none) := by
  simp [firstNamed?, List.find?_append, List.find?_singleton]

/-- A name that was met is met no more than before. -/
theorem Knows.met {seen : Seen} {first : Occurrence ρ} (h : Knows seen before)
    (ho : firstNamed? o.name before = some first) : Knows seen (before ++ [o]) := by
  intro name
  rw [h name, firstNamed?_concat]
  by_cases hname : o.name = name
  · subst hname
    rw [ho, Option.some_or]
  · rw [if_neg hname, Option.or_none]

/-- A new name is known from its first occurrence on. -/
theorem Knows.new {seen : Seen} (h : Knows seen before) (ho : firstNamed? o.name before = none) :
    Knows ((o.name, o.provenance) :: seen) (before ++ [o]) := by
  intro name
  rw [firstNamed?_concat, List.lookup_cons]
  by_cases hname : o.name = name
  · subst hname
    rw [beq_self_eq_true, ho, if_pos rfl]
    rfl
  · rw [beq_false_of_ne (Ne.symm hname), if_neg hname, Option.or_none]
    exact h name

/-- What the program does with a record whose name is new. -/
theorem keepFirst_of_new {seen : Seen} {r : ρ} (h : seen.lookup (Catalogued.name r) = none)
    (path : String) (records : List ρ) :
    keepFirst path seen (r :: records)
      = let k := keepFirst path ((Catalogued.name r, Catalogued.provenance r) :: seen) records
        { k with records := r :: k.records } := by
  simp only [keepFirst, h]

/-- What it does with a record whose name has been met. -/
theorem keepFirst_of_met {seen : Seen} {r : ρ} {first : Provenance}
    (h : seen.lookup (Catalogued.name r) = some first) (path : String) (records : List ρ) :
    keepFirst path seen (r :: records)
      = let k := keepFirst path seen records
        { k with duplicates := duplicate path first r :: k.duplicates } := by
  simp only [keepFirst, h]

/-- **One file**: its first occurrences are kept and the others are reported. -/
theorem keepFirst_eq {seen : Seen} (h : Knows seen before) (file : Nat) (path : String)
    (records : List ρ) :
    (keepFirst path seen records).records
        = (firsts before (occurrencesIn file path records)).map (·.record)
      ∧ (keepFirst path seen records).duplicates
        = (repeats before (occurrencesIn file path records)).map
            (fun (first, again) => repeatNotice first again)
      ∧ Knows (keepFirst path seen records).seen (before ++ occurrencesIn file path records) := by
  -- along the records, each of which is before the next
  induction records generalizing seen before with
  | nil =>
      rw [occurrencesIn, List.map_nil, List.append_nil]
      exact ⟨rfl, rfl, h⟩
  | cons r records ih =>
      let o : Occurrence ρ := ⟨file, path, r⟩
      have hcons : occurrencesIn file path (r :: records)
          = o :: occurrencesIn file path records := rfl
      have hconcat : before ++ occurrencesIn file path (r :: records)
          = before ++ [o] ++ occurrencesIn file path records := by
        rw [hcons, List.append_assoc, List.singleton_append]
      have hlookup : seen.lookup (Catalogued.name r)
          = (firstNamed? o.name before).map Occurrence.provenance := h _
      rw [hconcat, hcons]
      cases hfirst : firstNamed? o.name before with
      | none =>
          rw [hfirst] at hlookup
          obtain ⟨hrecords, hduplicates, hknows⟩ := ih (h.new hfirst)
          rw [firsts_cons_of_new hfirst, repeats_cons_of_new hfirst, keepFirst_of_new hlookup]
          exact ⟨congrArg (r :: ·) hrecords, hduplicates, hknows⟩
      | some first =>
          rw [hfirst] at hlookup
          obtain ⟨hrecords, hduplicates, hknows⟩ := ih (h.met hfirst)
          rw [firsts_cons_of_met hfirst, repeats_cons_of_met hfirst, keepFirst_of_met hlookup]
          exact ⟨hrecords, congrArg (_ :: ·) hduplicates, hknows⟩

/-! ## All files

From one file to the next the names that have been met are those of all occurrences before. The
three parts of the result are described one by one. -/

section Files

variable {seen : Seen} (h : Knows seen before) (start : Nat)

include h

/-- **What is kept** are the first occurrences. -/
theorem mergeFrom_records (results : List (String × FileResult ρ)) :
    (mergeFrom seen results).records
      = (firsts before (occurrencesFrom start results)).map (·.record) := by
  induction results generalizing seen before start with
  | nil => rfl
  | cons r rest ih =>
      obtain ⟨path, result⟩ := r
      obtain ⟨hrecords, -, hknows⟩ := keepFirst_eq h start path result.records
      rw [occurrencesFrom_cons, firsts_append, List.map_append, ← hrecords,
        ← ih hknows (start + 1), mergeFrom]

/-- **What is reported** is what the files had to report and one error for every repeated
occurrence, up to the order, which is that of the lines in each file. -/
theorem mergeFrom_diagnostics (results : List (String × FileResult ρ)) :
    (mergeFrom seen results).diagnostics.Perm ((results.flatMap fun r => r.2.diagnostics)
      ++ (repeats before (occurrencesFrom start results)).map
          fun (first, again) => repeatNotice first again) := by
  induction results generalizing seen before start with
  | nil => exact .refl []
  | cons r rest ih =>
      obtain ⟨path, result⟩ := r
      obtain ⟨-, hduplicates, hknows⟩ := keepFirst_eq h start path result.records
      have hrest := ih hknows (start + 1)
      rw [occurrencesFrom_cons, repeats_append, List.map_append, ← hduplicates, List.flatMap_cons,
        mergeFrom]
      generalize (keepFirst path seen result.records).duplicates = own
      have hown : (byLine (result.diagnostics ++ own)).Perm (result.diagnostics ++ own) :=
        List.mergeSort_perm _ _
      -- the errors of the file change places with what the files behind it report
      refine (hown.append hrest).trans ?_
      rw [List.append_assoc, List.append_assoc]
      exact (List.perm_append_comm_assoc own _ _).append_left _

/-- **What the files contribute** are their first occurrences. -/
theorem mergeFrom_files (results : List (String × FileResult ρ)) :
    (mergeFrom seen results).files
      = (results.zipIdx start).map (summary (firsts before (occurrencesFrom start results))) := by
  induction results generalizing seen before start with
  | nil => rfl
  | cons r rest ih =>
      obtain ⟨path, result⟩ := r
      obtain ⟨hrecords, -, hknows⟩ := keepFirst_eq h start path result.records
      have hlength := congrArg List.length hrecords
      rw [List.length_map] at hlength
      -- the number of a file tells its own records from those of the files behind it
      have hown : ∀ o ∈ firsts before (occurrencesIn start path result.records), o.file = start :=
        fun o ho => file_of_mem_occurrencesIn ((firsts_sublist _ _).subset ho)
      have hbehind : ∀ o ∈ firsts (before ++ occurrencesIn start path result.records)
          (occurrencesFrom (start + 1) rest), start < o.file :=
        fun o ho => le_file_of_mem_occurrencesFrom ((firsts_sublist _ _).subset ho)
      rw [occurrencesFrom_cons, firsts_append, List.zipIdx_cons, List.map_cons,
        summary_append_of_own path result hown hbehind, ← hlength, mergeFrom,
        ih hknows (start + 1)]
      refine congrArg (_ :: ·) (List.map_congr_left fun r hr => ?_)
      refine (summary_append_of_behind fun o ho => ?_).symm
      rw [hown o ho]
      exact List.le_snd_of_mem_zipIdx hr

end Files

/-- The numbers of the files sum up to that of all records that are kept. -/
theorem sum_records_mergeFrom (seen : Seen) (results : List (String × FileResult ρ)) :
    ((mergeFrom seen results).files.map (·.records)).sum
      = (mergeFrom seen results).records.length := by
  induction results generalizing seen with
  | nil => rfl
  | cons r rest ih =>
      simp only [mergeFrom, List.map_cons, List.sum_cons, List.length_append, ih]

/-- **Merging keeps the first record of every name** and reports all others. Extraction merges what
the files give that are discovered. -/
theorem merge_keepsFirst (results : List (String × FileResult ρ)) :
    KeepsFirst results (merge results)
      ∧ ∀ (ofFile : Outline → String → FileResult ρ) (t : Tree) (root : Place) (c : SourceConfig),
          extract ofFile t root c
            = (discover t root c).map fun sources =>
                merge (sources.map fun s => (s.path, ofSource ofFile s)) := by
  have hrecords : (merge results).records = (firsts [] (occurrences results)).map (·.record) :=
    mergeFrom_records .nil 0 results
  have hall : (occurrences results).map (·.record) = results.flatMap fun r => r.2.records :=
    map_record_occurrencesFrom 0 results
  refine ⟨⟨?_, ?_, hrecords, ?_, mergeFrom_diagnostics .nil 0 results,
    mergeFrom_files .nil 0 results, sum_records_mergeFrom [] results⟩, ?_⟩
  · have hnames := nodup_names_firsts [] (occurrences results)
    rw [hrecords, List.map_map]
    exact hnames
  · rw [hrecords, ← hall]
    exact (firsts_sublist _ _).map _
  · rw [hrecords, ← hall, List.length_map, List.length_map, length_firsts_add_length_repeats]
  · intro ofFile t root c
    rw [extract]
    -- an error of the discovery is passed on by both
    cases discover t root c with
    | error e => rfl
    | ok sources => rfl

end DocCatalog.Extract
