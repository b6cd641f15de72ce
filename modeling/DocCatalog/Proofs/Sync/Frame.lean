import DocCatalog.Proofs.Sync.Plan

/-!
# What a run leaves as it was

Each kind writes one file at most, its own module. What the other kinds write comes before or after
that, so a module that was written is in its place when the run is over.

* **`outputPlace`**: the place of the module of a kind.
* **`perform_generated`**, **`perform_failed`**, **`perform_untouched`**: what was planned, for each
  way in which it can end.
* **`perform_extends`**, **`perform_of_not_generated`**: what performing a plan does to the tree.
* **`extends_before`**, **`extends_after`**: what the other kinds do to it.
-/

namespace DocCatalog.Sync

/-- The place of the module of a kind. -/
def outputPlace (root : String) (c : Config) (kind : RecordKind) : Place :=
  Path.placeOf (destination root c kind).fullPath

/-- The modules of different kinds have different places. -/
def OutputsApart (root : String) (c : Config) : Prop :=
  ∀ j k, j ≠ k → outputPlace root c j ≠ outputPlace root c k

/-- For three kinds there are three pairs to compare. -/
theorem outputsApart_iff {root : String} {c : Config} :
    OutputsApart root c ↔
      outputPlace root c .component ≠ outputPlace root c .command
        ∧ outputPlace root c .component ≠ outputPlace root c .pattern
        ∧ outputPlace root c .command ≠ outputPlace root c .pattern := by
  constructor
  · intro h
    exact ⟨h _ _ (by decide), h _ _ (by decide), h _ _ (by decide)⟩
  · rintro ⟨hone, htwo, hthree⟩ j k hjk
    match j, k with
    | .component, .component | .command, .command | .pattern, .pattern => exact absurd rfl hjk
    | .component, .command => exact hone
    | .component, .pattern => exact htwo
    | .command, .pattern => exact hthree
    | .command, .component => exact hone.symm
    | .pattern, .component => exact htwo.symm
    | .pattern, .command => exact hthree.symm

instance (root : String) (c : Config) : Decidable (OutputsApart root c) :=
  decidable_of_iff' _ outputsApart_iff

/-! ## Performing a plan

There are six ways to end, of which only one writes a file: extraction or validation has failed, there
was nothing to write, the run is dry, the file was written, or it could not be. -/

/-- What is reported of a module. -/
def outcomeOf (kind : RecordKind) (o : Options) (d : Destination) (m : Emit.GeneratedModule)
    (t : Tree) : FileOutcome :=
  let old := (t.readText d.fullPath).toOption
  { kind := kind
    path := d.path
    records := m.recordCount
    preview := Kind.preview old m.code
    diff := Kind.difference o d.path old m.code
    written := !o.dryRun
    code := m.code }

/-- What is reported of a module that could not be written. -/
def writeFailure (kind : RecordKind) (d : Destination) (e : WriteError) : SyncError :=
  ⟨.write kind, e.message, some d.path, some (": ".intercalate e.causes)⟩

variable {kind : RecordKind} {o : Options} {d : Destination} {t : Tree}

theorem perform_write_dry (h : o.dryRun = true) (m : Emit.GeneratedModule) :
    (Todo.write m).perform kind o d t = (.generated (outcomeOf kind o d m t), t) := by
  simp [Todo.perform, Kind.write, outcomeOf, h]

theorem perform_write_ok {t' : Tree} {m : Emit.GeneratedModule} (h : o.dryRun = false)
    (hok : t.replace d.fullPath m.code = (t', none)) :
    (Todo.write m).perform kind o d t = (.generated (outcomeOf kind o d m t), t') := by
  simp [Todo.perform, Kind.write, outcomeOf, h, hok]

theorem perform_write_error {t' : Tree} {m : Emit.GeneratedModule} {e : WriteError}
    (h : o.dryRun = false) (herror : t.replace d.fullPath m.code = (t', some e)) :
    (Todo.write m).perform kind o d t = (.failed (writeFailure kind d e), t') := by
  simp [Todo.perform, Kind.write, writeFailure, h, herror]

theorem perform_write_tree (h : o.dryRun = false) (m : Emit.GeneratedModule) :
    ((Todo.write m).perform kind o d t).2 = (t.replace d.fullPath m.code).1 := by
  rcases hreplace : t.replace d.fullPath m.code with ⟨t', - | e⟩
  · rw [perform_write_ok h hreplace]
  · rw [perform_write_error h hreplace]

/-- A module that is to be written is only shown, or it is written, or it cannot be. -/
theorem perform_write_cases (kind : RecordKind) (o : Options) (d : Destination) (t : Tree)
    (m : Emit.GeneratedModule) :
    (o.dryRun = true ∧ (Todo.write m).perform kind o d t = (.generated (outcomeOf kind o d m t), t))
      ∨ (o.dryRun = false ∧ ∃ t', t.replace d.fullPath m.code = (t', none)
          ∧ (Todo.write m).perform kind o d t = (.generated (outcomeOf kind o d m t), t'))
      ∨ (o.dryRun = false ∧ ∃ t' e, t.replace d.fullPath m.code = (t', some e)
          ∧ (Todo.write m).perform kind o d t = (.failed (writeFailure kind d e), t')) := by
  cases hdry : o.dryRun with
  | true => exact Or.inl ⟨rfl, perform_write_dry hdry m⟩
  | false =>
      rcases hreplace : t.replace d.fullPath m.code with ⟨t', - | e⟩
      · exact Or.inr (Or.inl ⟨rfl, t', rfl, perform_write_ok hdry hreplace⟩)
      · exact Or.inr (Or.inr ⟨rfl, t', e, rfl, perform_write_error hdry hreplace⟩)

/-- A dry run leaves the tree as it was. -/
theorem perform_tree_of_dry (h : o.dryRun = true) (todo : Todo) :
    (todo.perform kind o d t).2 = t := by
  cases todo with
  | fail e => rfl
  | leave message => rfl
  | write m => rw [perform_write_dry h]

/-- What is generated is reported for its own kind and, unless the run is dry, is in its place with
the mode of the file that was there. -/
theorem perform_generated {todo : Todo} {f : FileOutcome}
    (h : (todo.perform kind o d t).1 = .generated f) :
    (∃ m, todo = .write m ∧ f = outcomeOf kind o d m t)
      ∧ (o.dryRun = false → (todo.perform kind o d t).2.get? (Path.placeOf d.fullPath)
          = some (.file ⟨.text f.code, t.modeAt (Path.placeOf d.fullPath)⟩)) := by
  cases todo with
  | fail e => cases h
  | leave message => cases h
  | write m =>
      rcases perform_write_cases kind o d t m with
        ⟨hdry, hp⟩ | ⟨hdry, t', hreplace, hp⟩ | ⟨hdry, t', e, hreplace, hp⟩
      · -- a dry run writes nothing, a run with an error has no file in its report
        rw [hp] at h ⊢
        cases h
        refine ⟨⟨m, rfl, rfl⟩, ?_⟩
        intro hnot
        rw [hdry] at hnot
        cases hnot
      · rw [hp] at h ⊢
        cases h
        exact ⟨⟨m, rfl, rfl⟩, fun _ => (Tree.replace_ok hreplace).2⟩
      · rw [hp] at h
        cases h

/-- A failure was planned, or it is that of writing the module. -/
theorem perform_failed {todo : Todo} {error : SyncError}
    (h : (todo.perform kind o d t).1 = .failed error) :
    todo = .fail error ∨ ∃ cause, error = writeFailure kind d cause := by
  cases todo with
  | fail e =>
      cases h
      exact Or.inl rfl
  | leave message => cases h
  | write m =>
      rcases perform_write_cases kind o d t m with
        ⟨-, hp⟩ | ⟨-, t', -, hp⟩ | ⟨-, t', e, -, hp⟩
      · rw [hp] at h
        cases h
      · rw [hp] at h
        cases h
      · rw [hp] at h
        cases h
        exact Or.inr ⟨e, rfl⟩

/-- Only what was to be left is left. -/
theorem perform_untouched {todo : Todo} {message : String}
    (h : (todo.perform kind o d t).1 = .untouched message) : todo = .leave message := by
  cases todo with
  | fail e => cases h
  | leave message' =>
      cases h
      rfl
  | write m =>
      rcases perform_write_cases kind o d t m with
        ⟨-, hp⟩ | ⟨-, t', -, hp⟩ | ⟨-, t', e, -, hp⟩
      · rw [hp] at h
        cases h
      · rw [hp] at h
        cases h
      · rw [hp] at h
        cases h

/-- Unless a module is generated, no file is changed. -/
theorem perform_of_not_generated {todo : Todo}
    (h : ∀ f, (todo.perform kind o d t).1 ≠ .generated f) :
    t.Extends (fun _ => False) (todo.perform kind o d t).2 := by
  cases todo with
  | fail e => exact .refl _ t
  | leave message => exact .refl _ t
  | write m =>
      rcases perform_write_cases kind o d t m with
        ⟨hdry, hp⟩ | ⟨hdry, t', hreplace, hp⟩ | ⟨hdry, t', e, hreplace, hp⟩
      · exact absurd (congrArg Prod.fst hp) (h _)
      · exact absurd (congrArg Prod.fst hp) (h _)
      · rw [hp]
        exact Tree.replace_error hreplace

/-- A plan changes no file but the module, and that only when it says so. -/
theorem perform_extends (todo : Todo) :
    t.Extends
      (fun p => p = Path.placeOf d.fullPath ∧ o.dryRun = false
        ∧ ∃ f, (todo.perform kind o d t).1 = .generated f)
      (todo.perform kind o d t).2 := by
  by_cases hgenerated : ∃ f, (todo.perform kind o d t).1 = .generated f
  · obtain ⟨f, hf⟩ := hgenerated
    obtain ⟨⟨m, rfl, -⟩, -⟩ := perform_generated hf
    rcases perform_write_cases kind o d t m with
      ⟨hdry, hp⟩ | ⟨hdry, t', hreplace, hp⟩ | ⟨hdry, t', e, hreplace, hp⟩
    · rw [hp]
      exact .refl _ t
    · rw [hp]
      exact (Tree.replace_ok hreplace).1.mono fun p hplace => ⟨hplace, hdry, _, rfl⟩
    · rw [hp] at hf
      cases hf
  · exact (perform_of_not_generated fun f hf => hgenerated ⟨f, hf⟩).mono fun _ => False.elim

/-! ## Stages

A kind finds what the kinds before it have left, and what it leaves is found when the run is over but
for what the kinds behind it have written. -/

section Stages

variable {step : RecordKind → Tree → KindRun} {written : RecordKind → Place → Prop}

/-- The tree on which a kind is synchronized differs from the first one by what the others wrote. -/
theorem extends_before
    (hstep : ∀ k, (before step t k).Extends (written k) (stage step t k).tree) (k : RecordKind) :
    t.Extends (fun p => ∃ j, j ≠ k ∧ written j p) (before step t k) := by
  have hfirst : t.Extends (written .component) (stage step t .component).tree := hstep .component
  cases k with
  | component => exact .refl _ t
  | command => exact hfirst.mono fun p hp => ⟨.component, by decide, hp⟩
  | pattern =>
      exact (hfirst.mono fun p hp => ⟨.component, by decide, hp⟩).trans
        ((hstep .command).mono fun p hp => ⟨.command, by decide, hp⟩)

/-- The last tree differs from the one that a kind leaves by what the others wrote. -/
theorem extends_after
    (hstep : ∀ k, (before step t k).Extends (written k) (stage step t k).tree) (k : RecordKind) :
    (stage step t k).tree.Extends (fun p => ∃ j, j ≠ k ∧ written j p)
      (stage step t .pattern).tree := by
  have hlast : (stage step t .command).tree.Extends (written .pattern) (stage step t .pattern).tree :=
    hstep .pattern
  have hmiddle : (stage step t .component).tree.Extends (written .command)
      (stage step t .command).tree := hstep .command
  cases k with
  | component =>
      exact (hmiddle.mono fun p hp => ⟨.command, by decide, hp⟩).trans
        (hlast.mono fun p hp => ⟨.pattern, by decide, hp⟩)
  | command => exact hlast.mono fun p hp => ⟨.pattern, by decide, hp⟩
  | pattern => exact .refl _ _

/-- The last tree differs from the first one by what has been written. -/
theorem extends_stages
    (hstep : ∀ k, (before step t k).Extends (written k) (stage step t k).tree) :
    t.Extends (fun p => ∃ k, written k p) (stage step t .pattern).tree :=
  ((extends_before hstep .pattern).mono fun _ ⟨j, _, hp⟩ => ⟨j, hp⟩).trans
    ((hstep .pattern).mono fun _ hp => ⟨.pattern, hp⟩)

end Stages

/-! ## Runs

Of the three stages each writes at most the file of its own kind. -/

/-- The places that a kind writes when it is synchronized as `step` says. -/
def writtenBy (t : Tree) (root : String) (c : Config) (o : Options) (k : RecordKind) (p : Place) :
    Prop :=
  p = outputPlace root c k ∧ o.dryRun = false
    ∧ ∃ f, (stage (stepOf t root c o) t k).ending = .generated f

/-- **Each stage** extends the tree by the module that it has written. -/
theorem stage_extends (t : Tree) (root : String) (c : Config) (o : Options) (k : RecordKind) :
    (before (stepOf t root c o) t k).Extends (writtenBy t root c o k)
      (stage (stepOf t root c o) t k).tree :=
  perform_extends _

end DocCatalog.Sync
