import DocCatalog.Extract.Unread
import DocCatalog.Proofs.Extract.FirstOfName
import Mathlib.Data.List.Basic
import Mathlib.Data.List.Forall2

/-!
# The order of diagnostics

What could not be read on the way to the files is reported first, and then file by file what each of
them gives: its own diagnostics and the errors of its records that are dropped, sorted by lines. Sorting
is stable, so on the same line the own diagnostics of the file come before those errors.

* **`noticesIn`**: the errors of the records of one file that are dropped.
* **`InLineOrder`**, **`inLineOrder_byLine`**: two lists of diagnostics, sorted together.
* **`mergeFrom_diagnostics_eq`**: all files from one on.
* **`records_add_noticesIn`**: there is one error for each record of a file that is dropped.
* **`mergeBehind_lists`**: what is reported, and in which order.
-/

namespace DocCatalog.Extract

variable {ρ : Type} [Catalogued ρ]

/-- What is reported of the repeated records of a file, in the order of the records. -/
def noticesIn (repeated : List (Occurrence ρ × Occurrence ρ)) (file : Nat) : List Diagnostic :=
  (repeated.filter (·.2.file == file)).map fun (first, again) => repeatNotice first again

/-- What is reported is made of two lists: it is in the order of lines, where a missing line counts as
0, and on the same line the first list goes before the second one, each in its own order. -/
structure InLineOrder (own notices reported : List Diagnostic) : Prop where
  all : reported.Perm (own ++ notices)
  ascending : reported.Pairwise fun a b => a.line.getD 0 ≤ b.line.getD 0
  stable : ∀ n, reported.filter (·.line.getD 0 == n)
    = own.filter (·.line.getD 0 == n) ++ notices.filter (·.line.getD 0 == n)

/-- The diagnostics of an extraction: first what could not be read on the way to the files, then file by
file the diagnostics of the file and one error for each of its records that is dropped. -/
structure ListsDiagnostics (unread : List Diagnostic) (results : List (String × FileResult ρ))
    (e : Extraction ρ) : Prop where
  byFile : ∃ reported : (String × FileResult ρ) × Nat → List Diagnostic,
    e.diagnostics = unread ++ results.zipIdx.flatMap reported
      ∧ ∀ file, InLineOrder file.1.2.diagnostics
          (noticesIn (repeats [] (occurrences results)) file.2) (reported file)
  /-- A record is kept, or there is an error for it. -/
  dropped : List.Forall₂ (fun (f : FileSummary) file =>
      f.records + (noticesIn (repeats [] (occurrences results)) file.2).length
        = file.1.2.records.length)
    e.files results.zipIdx
  nothingElse : e.diagnostics.Perm (unread ++ ((results.flatMap fun r => r.2.diagnostics)
    ++ (repeats [] (occurrences results)).map fun (first, again) => repeatNotice first again))

/-! ## Sorting

Diagnostics are sorted by lines, and those on the same line keep their order. This says all there is
to say about the sorted list. -/

theorem lineOrder_trans (a b c : Diagnostic) (hab : decide (a.line.getD 0 ≤ b.line.getD 0) = true)
    (hbc : decide (b.line.getD 0 ≤ c.line.getD 0) = true) :
    decide (a.line.getD 0 ≤ c.line.getD 0) = true := by
  simp only [decide_eq_true_eq] at *
  omega

theorem lineOrder_total (a b : Diagnostic) :
    (decide (a.line.getD 0 ≤ b.line.getD 0) || decide (b.line.getD 0 ≤ a.line.getD 0)) = true := by
  simp only [Bool.or_eq_true, decide_eq_true_eq]
  omega

/-- On one line nothing changes its place. -/
theorem filter_byLine (ds : List Diagnostic) (n : Nat) :
    (byLine ds).filter (·.line.getD 0 == n) = ds.filter (·.line.getD 0 == n) := by
  -- those on one line are in order, so they are found one behind the other in the sorted list too
  have horder : (ds.filter (·.line.getD 0 == n)).Pairwise
      fun a b => decide (a.line.getD 0 ≤ b.line.getD 0) = true := by
    refine List.pairwise_of_forall_mem_list fun a ha b hb => ?_
    have hna := eq_of_beq (List.mem_filter.mp ha).2
    have hnb := eq_of_beq (List.mem_filter.mp hb).2
    simp only [decide_eq_true_eq]
    omega
  have hsub : (ds.filter (·.line.getD 0 == n)).Sublist (byLine ds) :=
    List.sublist_mergeSort lineOrder_trans lineOrder_total horder List.filter_sublist
  have hfiltered := hsub.filter (·.line.getD 0 == n)
  rw [List.filter_filter] at hfiltered
  simp only [Bool.and_self] at hfiltered
  have hlength : ((byLine ds).filter (·.line.getD 0 == n)).length
      = (ds.filter (·.line.getD 0 == n)).length :=
    ((List.mergeSort_perm ds _).filter _).length_eq
  exact (hfiltered.eq_of_length hlength.symm).symm

/-- **Sorting by lines** keeps those on the same line as they are. -/
theorem inLineOrder_byLine (own notices : List Diagnostic) :
    InLineOrder own notices (byLine (own ++ notices)) where
  all := List.mergeSort_perm _ _
  ascending :=
    (List.pairwise_mergeSort lineOrder_trans lineOrder_total (own ++ notices)).imp of_decide_eq_true
  stable n := by rw [filter_byLine, List.filter_append]

/-! ## The errors of one file

Each error goes with the file whose record was dropped. As the files are gone through in order,
those of one file stand together. -/

/-- The records that are dropped are among all, in their order. -/
theorem map_snd_repeats_sublist (before all : List (Occurrence ρ)) :
    ((repeats before all).map Prod.snd).Sublist all := by
  induction all generalizing before with
  | nil => exact List.Sublist.refl []
  | cons o all ih =>
      cases h : firstNamed? o.name before with
      | none =>
          rw [repeats_cons_of_new h]
          exact (ih _).cons o
      | some first =>
          rw [repeats_cons_of_met h]
          exact (ih _).cons_cons o

variable {own behind : List (Occurrence ρ × Occurrence ρ)} {i : Nat}

/-- Nothing behind a file is about it. -/
theorem noticesIn_append_of_own (hown : ∀ r ∈ own, r.2.file = i) (hbehind : ∀ r ∈ behind, i < r.2.file) :
    noticesIn (own ++ behind) i = own.map fun (first, again) => repeatNotice first again := by
  have hall : own.filter (·.2.file == i) = own :=
    List.filter_eq_self.mpr fun r hr => beq_iff_eq.mpr (hown r hr)
  have hnone : behind.filter (·.2.file == i) = [] :=
    List.filter_eq_nil_iff.mpr fun r hr hi => Nat.ne_of_gt (hbehind r hr) (eq_of_beq hi)
  rw [noticesIn, List.filter_append, hall, hnone, List.append_nil]

/-- Nothing before it is. -/
theorem noticesIn_append_of_behind (hown : ∀ r ∈ own, r.2.file < i) :
    noticesIn (own ++ behind) i = noticesIn behind i := by
  have hnone : own.filter (·.2.file == i) = [] :=
    List.filter_eq_nil_iff.mpr fun r hr hi => Nat.ne_of_lt (hown r hr) (eq_of_beq hi)
  rw [noticesIn, List.filter_append, hnone, List.nil_append, noticesIn]

/-- The errors of a file are about its records. -/
theorem file_of_mem_repeats_occurrencesIn {before : List (Occurrence ρ)} {path : String}
    {records : List ρ} {r : Occurrence ρ × Occurrence ρ}
    (h : r ∈ repeats before (occurrencesIn i path records)) : r.2.file = i :=
  file_of_mem_occurrencesIn ((map_snd_repeats_sublist _ _).subset (List.mem_map_of_mem h))

/-- Those from one file on are about this file or later ones. -/
theorem le_file_of_mem_repeats_occurrencesFrom {before : List (Occurrence ρ)}
    {results : List (String × FileResult ρ)} {r : Occurrence ρ × Occurrence ρ}
    (h : r ∈ repeats before (occurrencesFrom i results)) : i ≤ r.2.file :=
  le_file_of_mem_occurrencesFrom ((map_snd_repeats_sublist _ _).subset (List.mem_map_of_mem h))

/-! ## All files

What is reported file by file is what has been found for each file, put in order. -/

/-- **The diagnostics are listed file by file.** -/
theorem mergeFrom_diagnostics_eq {seen : Seen} {before : List (Occurrence ρ)} (h : Knows seen before)
    (start : Nat) (results : List (String × FileResult ρ)) :
    (mergeFrom seen results).diagnostics
      = (results.zipIdx start).flatMap fun file => byLine (file.1.2.diagnostics
          ++ noticesIn (repeats before (occurrencesFrom start results)) file.2) := by
  induction results generalizing seen before start with
  | nil => rfl
  | cons r rest ih =>
      obtain ⟨path, result⟩ := r
      obtain ⟨-, hduplicates, hknows⟩ := keepFirst_eq h start path result.records
      have hown : ∀ r ∈ repeats before (occurrencesIn start path result.records), r.2.file = start :=
        fun r hr => file_of_mem_repeats_occurrencesIn hr
      have hbehind : ∀ r ∈ repeats (before ++ occurrencesIn start path result.records)
          (occurrencesFrom (start + 1) rest), start < r.2.file :=
        fun r hr => le_file_of_mem_repeats_occurrencesFrom hr
      rw [occurrencesFrom_cons, repeats_append, List.zipIdx_cons, List.flatMap_cons,
        noticesIn_append_of_own hown hbehind, ← hduplicates, mergeFrom, ih hknows (start + 1)]
      -- the files behind see nothing of the errors of this one
      refine congrArg (_ ++ ·) (List.flatMap_congr fun file hfile => ?_)
      rw [noticesIn_append_of_behind fun r hr => ?_]
      rw [hown r hr]
      exact List.le_snd_of_mem_zipIdx hfile

omit [Catalogued ρ] in
/-- A file has as many occurrences as records. -/
theorem countP_occurrencesFrom {start : Nat} {results : List (String × FileResult ρ)}
    {file : (String × FileResult ρ) × Nat} (h : file ∈ results.zipIdx start) :
    (occurrencesFrom start results).countP (·.file == file.2) = file.1.2.records.length := by
  induction results generalizing start with
  | nil => cases h
  | cons r rest ih =>
      obtain ⟨path, result⟩ := r
      rw [occurrencesFrom_cons, List.countP_append]
      rw [List.zipIdx_cons] at h
      -- this file or a later one: either way the occurrences of the others do not count
      rcases List.mem_cons.mp h with rfl | hrest
      · have hown : (occurrencesIn start path result.records).countP (·.file == start)
            = (occurrencesIn start path result.records).length :=
          List.countP_eq_length.mpr fun o ho => beq_iff_eq.mpr (file_of_mem_occurrencesIn ho)
        have hbehind : (occurrencesFrom (start + 1) rest).countP (·.file == start) = 0 :=
          List.countP_eq_zero.mpr fun o ho hi =>
            Nat.ne_of_gt (le_file_of_mem_occurrencesFrom ho) (eq_of_beq hi)
        rw [hown, hbehind, Nat.add_zero, occurrencesIn, List.length_map]
      · have hlater : start + 1 ≤ file.2 := List.le_snd_of_mem_zipIdx hrest
        have hown : (occurrencesIn start path result.records).countP (·.file == file.2) = 0 :=
          List.countP_eq_zero.mpr fun o ho hi => by
            have hstart := file_of_mem_occurrencesIn ho
            have hfile : o.file = file.2 := eq_of_beq hi
            omega
        rw [hown, Nat.zero_add, ih hrest]

/-- **There is one error for each record of a file that is dropped.** -/
theorem records_add_noticesIn {results : List (String × FileResult ρ)}
    {file : (String × FileResult ρ) × Nat} (h : file ∈ results.zipIdx) :
    (summary (firsts [] (occurrences results)) file).records
        + (noticesIn (repeats [] (occurrences results)) file.2).length
      = file.1.2.records.length := by
  rw [← countP_occurrencesFrom h, ← occurrences,
    ← countP_firsts_add_countP_repeats (·.file == file.2) [] (occurrences results),
    noticesIn, List.length_map, ← List.countP_eq_length_filter, summary]

/-- **Diagnostics are complete and in order.** Extraction merges the files that a walk leads to behind
what could not be read on it. -/
theorem mergeBehind_lists (unread : List Diagnostic) (results : List (String × FileResult ρ)) :
    ListsDiagnostics unread results (mergeBehind unread results)
      ∧ ∀ (walk : Walk) (ofFile : Outline → String → FileResult ρ) (t : Tree) (root : Place)
          (c : SourceConfig),
          extractBy walk ofFile t root c
            = (discoverBy walk t root c).map fun (sources, unread) =>
                mergeBehind unread (sources.map fun s => (s.path, ofSource ofFile s)) := by
  have hfiles : (mergeBehind unread results).files
      = results.zipIdx.map (summary (firsts [] (occurrences results))) :=
    mergeFrom_files .nil 0 results
  refine ⟨⟨⟨_, congrArg (unread ++ ·) (mergeFrom_diagnostics_eq .nil 0 results),
    fun file => inLineOrder_byLine _ _⟩, ?_, (mergeFrom_diagnostics .nil 0 results).append_left _⟩, ?_⟩
  · rw [hfiles, List.forall₂_map_left_iff, List.forall₂_same]
    exact fun file hfile => records_add_noticesIn hfile
  · intro walk ofFile t root c
    rw [extractBy]
    cases discoverBy walk t root c with
    | error e => rfl
    | ok found => rfl

end DocCatalog.Extract
