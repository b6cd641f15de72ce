import Mathlib.Data.List.Basic
import DocCatalog.Report.Render
import DocCatalog.Proofs.Emit.Tells

/-!
# What a report lists

Every problem of a run is listed once, by phase. A list is put together by asking each phase for its
problems, so it is complete because the phases that are asked are all there are, each of them once.

* **`warningsIn_eq`**, **`errorsIn_eq`**: the problems of a phase are those of the run that it has.
* **`ListedByPhase`**, **`listedByPhase`**: what such a list is, compared with the problems of the run.
* **`injective_entryLines`**: the lines of an entry tell its phase, its text and what stands below it.
* **`ListsProblems`**, **`render_listsProblems`**: what a report shows of the problems.
-/

namespace DocCatalog

/-! ## The order of phases

Phases are ranked in the order in which a run goes through them. A phase is told by its text, since
that is what a reader of the report has. -/

/-- The place of a kind in the order in which kinds are synchronized. -/
def RecordKind.rank : RecordKind → Nat
  | .component => 0
  | .command => 1
  | .pattern => 2

/-- The place of a phase in a run: the arguments are read first, and a kind is written before the next
one is extracted. -/
def Phase.rank : Phase → Nat
  | .parseArgs => 0
  | .extract kind => 4 * kind.rank + 1
  | .generate kind => 4 * kind.rank + 2
  | .validate kind => 4 * kind.rank + 3
  | .write kind => 4 * kind.rank + 4

namespace Phase

theorem ascending_all : all.Pairwise fun p q => p.rank < q.rank := by decide

theorem nodup_all : all.Nodup := ascending_all.imp fun h heq => Nat.ne_of_lt h (congrArg rank heq)

theorem mem_all (p : Phase) : p ∈ all := by
  rcases p with _ | kind | kind | kind | kind
  · decide
  all_goals cases kind <;> decide

/-- The text of a phase finds this phase. -/
theorem find?_text (p : Phase) : all.find? (·.text == p.text) = some p := by
  rcases p with _ | kind | kind | kind | kind
  · rfl
  all_goals cases kind <;> rfl

/-- No two phases have the same text. -/
theorem text_inj {p q : Phase} (h : p.text = q.text) : p = q := by
  have hp := find?_text p
  rw [h, find?_text q] at hp
  exact (Option.some.inj hp).symm

theorem bracket_notMem_text (p : Phase) : ']' ∉ p.text.toList := by
  rcases p with _ | kind | kind | kind | kind
  · decide
  all_goals cases kind <;> decide

end Phase

namespace Report

/-! ## The problems of a run

What there is to be listed, taken from the parts of the report before any phase is asked. -/

/-- The warnings of a run, and then what its extractors warn of. -/
def warningProblems (r : Report) : List Entry :=
  r.warnings.map Entry.ofWarning ++ (r.findings .warn).map Entry.ofDiagnostic

/-- The errors that extractors met in a run, and then the phases that could not do their work. -/
def errorProblems (r : Report) : List Entry :=
  (r.findings .error).map Entry.ofDiagnostic ++ r.syncErrors.map Entry.ofSyncError

/-- The warnings of a phase are those among all warnings that it has. -/
theorem warningsIn_eq (r : Report) (p : Phase) :
    r.warningsIn p = r.warningProblems.filter (·.phase == p) := by
  rw [warningsIn, warningProblems, List.filter_append, List.filter_map, List.filter_map]
  rfl

/-- The errors of a phase are those among all errors that it has. -/
theorem errorsIn_eq (r : Report) (p : Phase) :
    r.errorsIn p = r.errorProblems.filter (·.phase == p) := by
  rw [errorsIn, errorProblems, List.filter_append, List.filter_map, List.filter_map]
  rfl

/-- Their number is the one in the head of the report. -/
theorem length_warningProblems (r : Report) : r.warningProblems.length = r.warningCount := by
  rw [warningProblems, List.length_append, List.length_map, List.length_map, warningCount]

theorem length_errorProblems (r : Report) : r.errorProblems.length = r.errorCount := by
  rw [errorProblems, List.length_append, List.length_map, List.length_map, errorCount, Nat.add_comm]

/-- A run has failed if there is an error. -/
theorem hasErrors_iff (r : Report) : r.hasErrors = true ↔ r.errorCount ≠ 0 := by
  rw [hasErrors, errorCount]
  cases r.syncErrors <;> cases r.findings .error <;> simp

/-! ## Lists by phase

Asking phase by phase sorts the problems and keeps the order in each phase. Nothing is lost as long
as no phase is left out, and nothing comes twice as long as none is asked twice. -/

/-- All problems are listed, in the order of their phases, and those of one phase in the order in which
they were met. -/
structure ListedByPhase (problems listed : List Entry) : Prop where
  perm : listed.Perm problems
  ascending : listed.Pairwise fun a b => a.phase.rank ≤ b.phase.rank
  stable : ∀ p, listed.filter (·.phase == p) = problems.filter (·.phase == p)

/-- The problems as they are found by asking the given phases one after the other. -/
def askedOf (phases : List Phase) (problems : List Entry) : List Entry :=
  phases.flatMap fun p => problems.filter (·.phase == p)

variable {phases : List Phase} {problems : List Entry}

/-- A phase that is not asked has nothing listed. -/
theorem filter_askedOf_of_notMem {q : Phase} (h : q ∉ phases) :
    (askedOf phases problems).filter (·.phase == q) = [] := by
  refine List.filter_eq_nil_iff.mpr fun e he hq => h ?_
  obtain ⟨p, hp, hmem⟩ := List.mem_flatMap.mp he
  rw [← eq_of_beq hq, eq_of_beq (List.mem_filter.mp hmem).2]
  exact hp

/-- A phase that is asked once gives its problems once. -/
theorem filter_askedOf {q : Phase} (hnodup : phases.Nodup) (hq : q ∈ phases) :
    (askedOf phases problems).filter (·.phase == q) = problems.filter (·.phase == q) := by
  induction phases with
  | nil => cases hq
  | cons p phases ih =>
      obtain ⟨hnot, hrest⟩ := List.nodup_cons.mp hnodup
      rw [askedOf, List.flatMap_cons, List.filter_append, List.filter_filter]
      change problems.filter (fun e => e.phase == q && e.phase == p)
        ++ (askedOf phases problems).filter (·.phase == q) = _
      -- each phase is asked for once, so the others list nothing of this one
      by_cases hqp : q = p
      · subst hqp
        rw [filter_askedOf_of_notMem hnot, List.append_nil]
        simp only [Bool.and_self]
      · have hnone : problems.filter (fun e => e.phase == q && e.phase == p) = [] := by
          refine List.filter_eq_nil_iff.mpr fun e _ he => hqp ?_
          obtain ⟨heq, hep⟩ := Bool.and_eq_true_iff.mp he
          exact (eq_of_beq heq).symm.trans (eq_of_beq hep)
        rw [hnone, List.nil_append]
        exact ih hrest ((List.mem_cons.mp hq).resolve_left hqp)

/-- The list is in the order of the phases. -/
theorem ascending_askedOf (h : phases.Pairwise fun p q => p.rank < q.rank) :
    (askedOf phases problems).Pairwise fun a b => a.phase.rank ≤ b.phase.rank := by
  have hphase : ∀ {p e}, e ∈ problems.filter (·.phase == p) → e.phase = p :=
    fun he => eq_of_beq (List.mem_filter.mp he).2
  refine List.pairwise_flatMap.mpr ⟨fun p _ => ?_, h.imp fun hlt a ha b hb => ?_⟩
  · refine List.pairwise_of_forall_mem_list fun a ha b hb => ?_
    exact Nat.le_of_eq (congrArg Phase.rank ((hphase ha).trans (hphase hb).symm))
  · rw [hphase ha, hphase hb]
    exact Nat.le_of_lt hlt

/-- **Asking all phases finds every problem once.** -/
theorem listedByPhase (problems : List Entry) : ListedByPhase problems (askedOf Phase.all problems) where
  ascending := ascending_askedOf Phase.ascending_all
  stable p := filter_askedOf Phase.nodup_all (Phase.mem_all p)
  perm := by
    -- equal problems are of one phase, and of each phase there are as many as there should be
    refine List.perm_iff_count.mpr fun e => ?_
    have hown : (e.phase == e.phase) = true := beq_self_eq_true e.phase
    have hcount : ∀ l : List Entry, (l.filter (·.phase == e.phase)).count e = l.count e :=
      fun l => List.count_filter hown
    rw [← hcount, filter_askedOf Phase.nodup_all (Phase.mem_all e.phase), hcount]

/-- The warnings of a report are listed in this way. -/
theorem warningEntries_eq (r : Report) : r.warningEntries = askedOf Phase.all r.warningProblems :=
  List.flatMap_congr fun p _ => r.warningsIn_eq p

theorem errorEntries_eq (r : Report) : r.errorEntries = askedOf Phase.all r.errorProblems :=
  List.flatMap_congr fun p _ => r.errorsIn_eq p

/-- A phase has failed if an error is listed for it. -/
theorem mem_failedPhases {r : Report} {p : Phase} :
    p ∈ r.failedPhases ↔ ∃ e ∈ r.errorEntries, e.phase = p := by
  have hlisted := (listedByPhase r.errorProblems).stable p
  rw [failedPhases, List.mem_filter, errorsIn_eq, ← hlisted, ← errorEntries_eq, Bool.not_eq_true',
    List.isEmpty_eq_false_iff_exists_mem]
  simp only [Phase.mem_all, true_and, List.mem_filter, beq_iff_eq]

/-! ## The text

The lists are written out with a title and the number of their entries, or not at all if there are
none. -/

/-- What is printed of an entry tells all of it. -/
theorem injective_entryLines : Function.Injective entryLines := by
  intro a b h
  obtain ⟨hfirst, hbelow⟩ := List.cons.inj h
  have hchars := congrArg String.toList hfirst
  simp only [String.toList_append, List.append_assoc] at hchars
  have hbracket := List.append_cancel_left hchars
  -- the closing bracket ends the name of the phase
  obtain ⟨hphase, hrest⟩ := Emit.eq_of_append_stop a.phase.bracket_notMem_text
    b.phase.bracket_notMem_text hbracket
  have htext : a.text.toList = b.text.toList := (List.cons.inj hrest).2
  cases a
  cases b
  simp only [Entry.mk.injEq]
  exact ⟨Phase.text_inj (String.toList_inj.mp hphase), String.toList_inj.mp htext, hbelow⟩

/-- A list of entries under its title, with their number. Without entries it is left out. -/
def listing (title : String) (entries : List Entry) : List String :=
  match entries with
  | [] => []
  | entries =>
    "" :: (title ++ " (" ++ toString entries.length ++ "):") :: entries.flatMap entryLines

/-- The advice for the given phases. Without phases it is left out. -/
def advice (phases : List Phase) : List String :=
  match phases with
  | [] => []
  | phases => "" :: "Suggestions:" :: phases.flatMap suggestionLines

/-- What a report shows of the problems of a run: the warnings and the errors, with their numbers, and
advice for the phases that errors are listed for. -/
structure ListsProblems (r : Report) (warnings errors : List Entry) (failed : List Phase) : Prop where
  text : r.render = String.join ((r.headLines ++ r.fileLines ++ listing "Warnings" warnings
    ++ listing "Errors" errors ++ advice failed).map (· ++ "\n"))
  warningsListed : ListedByPhase r.warningProblems warnings
  errorsListed : ListedByPhase r.errorProblems errors
  warningCount : r.warningCount = warnings.length
  errorCount : r.errorCount = errors.length
  withoutWarnings : listing "Warnings" warnings = [] ↔ r.warningCount = 0
  withoutErrors : listing "Errors" errors = [] ↔ r.errorCount = 0
  hasErrors : r.hasErrors = true ↔ r.errorCount ≠ 0
  memFailed : ∀ p, p ∈ failed ↔ ∃ e ∈ errors, e.phase = p
  failedAscending : failed.Pairwise fun p q => p.rank < q.rank

/-- Only an empty list is not written. -/
theorem listing_eq_nil {title : String} {entries : List Entry} :
    listing title entries = [] ↔ entries.length = 0 := by
  cases entries <;> simp [listing]

/-- The warnings as they are written. -/
theorem warningLines_eq (r : Report) : r.warningLines = listing "Warnings" r.warningEntries := by
  have hcount : r.warningCount = r.warningEntries.length := by
    rw [warningEntries_eq, (listedByPhase _).perm.length_eq, length_warningProblems]
  rw [warningLines, hcount]
  cases r.warningEntries <;> rfl

/-- The errors as they are written, with some advice behind them. -/
theorem errorLines_eq (r : Report) :
    r.errorLines = listing "Errors" r.errorEntries ++ advice r.failedPhases := by
  have hcount : r.errorCount = r.errorEntries.length := by
    rw [errorEntries_eq, (listedByPhase _).perm.length_eq, length_errorProblems]
  have hhas := r.hasErrors_iff
  rw [hcount] at hhas
  rw [errorLines, hcount]
  -- without an error no phase has failed, and with one its phase has
  cases hentries : r.errorEntries with
  | nil =>
      have hnone : r.hasErrors = false := by simpa [hentries] using hhas
      have hfailed : r.failedPhases = [] := by
        refine List.eq_nil_iff_forall_not_mem.mpr fun p hp => ?_
        obtain ⟨e, he, -⟩ := mem_failedPhases.mp hp
        rw [hentries] at he
        cases he
      rw [hnone, hfailed]
      rfl
  | cons e entries =>
      have hsome : r.hasErrors = true := by simpa [hentries] using hhas
      have hfailed : e.phase ∈ r.failedPhases :=
        mem_failedPhases.mpr ⟨e, hentries ▸ List.mem_cons_self, rfl⟩
      rw [hsome]
      cases hphases : r.failedPhases with
      | nil => simp [hphases] at hfailed
      | cons p phases => simp [listing, advice]

/-- **A report shows every problem once**, by phase, and what is printed of a problem tells it. -/
theorem render_listsProblems (r : Report) :
    ListsProblems r r.warningEntries r.errorEntries r.failedPhases
      ∧ Function.Injective entryLines := by
  have hwarnings : ListedByPhase r.warningProblems r.warningEntries :=
    r.warningEntries_eq ▸ listedByPhase r.warningProblems
  have herrors : ListedByPhase r.errorProblems r.errorEntries :=
    r.errorEntries_eq ▸ listedByPhase r.errorProblems
  have hwarningCount : r.warningCount = r.warningEntries.length := by
    rw [hwarnings.perm.length_eq, length_warningProblems]
  have herrorCount : r.errorCount = r.errorEntries.length := by
    rw [herrors.perm.length_eq, length_errorProblems]
  refine ⟨⟨?_, hwarnings, herrors, hwarningCount, herrorCount, ?_, ?_, r.hasErrors_iff,
    fun p => mem_failedPhases, ?_⟩, injective_entryLines⟩
  · rw [render, warningLines_eq, errorLines_eq, ← List.append_assoc]
  · rw [listing_eq_nil, hwarningCount]
  · rw [listing_eq_nil, herrorCount]
  · exact Phase.ascending_all.filter _

end Report

end DocCatalog
