import DocCatalog.Proofs.Files.Extension

/-!
# Files that are replaced

A text goes through a temporary file into its place. The temporary file has a name that nothing else
has, so that it is gone in the end whether the text found its place or not.

* **`replace_eq`**: what is left when the temporary file is gone.
* **`replace_ok`**: a text that was written is in its place, and no other file has changed.
* **`replace_error`**: where it could not be written, no file has changed.
-/

namespace DocCatalog.Tree

open DocCatalog.Path

/-! ## The temporary file

Its name is longer than all others in the tree and in the path, so that it is none of them. -/

theorem length_le_foldr_max {names : List String} {n : String} (h : n ∈ names) :
    n.length ≤ (names.map String.length).foldr max 0 := by
  induction names with
  | nil => cases h
  | cons m ms ih =>
      rw [List.map_cons, List.foldr_cons]
      rcases List.mem_cons.mp h with rfl | hms
      · exact Nat.le_max_left _ _
      · exact Nat.le_trans (ih hms) (Nat.le_max_right _ _)

/-- A fresh name is none of those that are taken. -/
theorem freshName_not_mem (taken : List String) : freshName taken ∉ taken := by
  intro h
  have hle := length_le_foldr_max h
  have hlength : (freshName taken).length = 4 + (taken.map String.length).foldr max 0 := by
    simp only [freshName, String.length_append, String.length_ofList, List.length_replicate,
      show ".tmp".length = 4 from rfl]
  omega

/-- No part of a path is the name of its temporary file. -/
theorem temporaryName_not_mem_pieces (t : Tree) (path : String) :
    t.temporaryName path ∉ pieces path :=
  fun h => freshName_not_mem _ (List.mem_append_right _ h)

/-- Nothing in the tree is at the place of the temporary file. -/
theorem ne_temporary_of_mem (t : Tree) (path : String) (directory : Place) {e : Place × Entry}
    (he : e ∈ t.entries) : e.1 ≠ directory ++ [t.temporaryName path] := by
  intro h
  have hname : t.temporaryName path ∈ e.1 := by
    rw [h]
    exact List.mem_append_right _ (List.mem_singleton.mpr rfl)
  exact freshName_not_mem _ (List.mem_append_left _ (List.mem_flatMap.mpr ⟨e, he, hname⟩))

/-- What was put where nothing was can be taken away again. -/
theorem erase_put {t : Tree} {p : Place} (h : ∀ e ∈ t.entries, e.1 ≠ p) (e : Entry) :
    (t.put p e).erase p = t := by
  have hall : t.entries.filter (·.1 != p) = t.entries :=
    List.filter_eq_self.mpr fun e he => by simpa using h e he
  simp [erase, put, hall]

/-- The names of a path are among its pieces. -/
theorem mem_pieces_of_named {path n : String} (h : .into n ∈ named path) : n ∈ pieces path := by
  obtain ⟨piece, hpiece, hstep⟩ := List.mem_filterMap.mp h
  unfold Step.ofPiece? at hstep
  split at hstep
  · cases hstep
  · cases hstep
  · cases hstep
  · cases hstep
    exact hpiece

/-! ## The place of the text

A text goes to the place that its path leads to, if this ends in a name and there is no directory.
-/

/-- When a path names a place for a text. -/
theorem target_eq_ok {t : Tree} {path : String} {p : Place} :
    t.target path = .ok p ↔
      (∃ n, (named path).getLast? = some (.into n)) ∧ t.walk [] (named path) = .ok p
        ∧ endsInSlash path = false ∧ t.get? p ≠ some .directory := by
  unfold target
  split
  -- the last step is a name, or it is none
  · next n hlast =>
      cases hw : t.walk [] (named path) with
      | error e => simp [bind, Except.bind]
      | ok q =>
          by_cases hslash : endsInSlash path = true
          · simp [bind, Except.bind, hslash]
          · by_cases hq : t.get? q = some .directory
            · simp only [bind, Except.bind, hslash, hq]
              simp
              rintro - - rfl
              exact hq
            · simp only [bind, Except.bind, hslash]
              simp [hq, hlast]
              rintro rfl
              exact hq
  · next hlast =>
      have hno : ¬ ∃ n, (named path).getLast? = some (.into n) := by
        rintro ⟨n, hn⟩
        exact hlast n hn
      cases hw : t.walk [] (named path).dropLast <;> simp [bind, Except.bind, hno]

/-- A file is put where its path leads, which is not the top. -/
theorem placeOf_of_target {t : Tree} {path : String} {p : Place} (h : t.target path = .ok p) :
    p = placeOf path ∧ p ≠ [] := by
  obtain ⟨⟨n, hlast⟩, hwalk, -, -⟩ := target_eq_ok.mp h
  refine ⟨walk_eq_follow hwalk, ?_⟩
  obtain ⟨before, hbefore⟩ := List.getLast?_eq_some_iff.mp hlast
  rw [walk_eq_follow hwalk, hbefore, follow_append]
  simp [Step.from]

/-- Whether a file can be put somewhere depends on what is at the places of the names on the way. -/
theorem target_congr {t t' : Tree} {path : String}
    (h : ∀ q : Place, (∀ n ∈ q, n ∈ pieces path) → t'.get? q = t.get? q) :
    t'.target path = t.target path := by
  -- also the walk to a target that is none stays among these places
  have hwalk : ∀ steps : List Step, steps ⊆ named path → t'.walk [] steps = t.walk [] steps := by
    intro steps hsteps
    refine walk_congr (by simp) ?_ h
    intro n hn
    exact mem_pieces_of_named (hsteps hn)
  unfold target
  rw [hwalk _ (List.dropLast_subset _), hwalk _ (List.Subset.refl _)]
  cases hw : t.walk [] (named path) with
  | error e => rfl
  | ok q =>
      have hq : t'.get? q = t.get? q := by
        refine h q fun n hn => ?_
        rw [walk_eq_follow hw] at hn
        rcases mem_follow hn with hnil | hstep
        · cases hnil
        · exact mem_pieces_of_named hstep
      simp only [bind, Except.bind, hq]

/-- The mode that is kept is that of the file in the place of the text. -/
theorem modeOf_of_target {t : Tree} {path : String} {p : Place} (h : t.target path = .ok p) :
    t.modeOf path = t.modeAt p := by
  obtain ⟨-, hwalk, hslash, -⟩ := target_eq_ok.mp h
  have hsteps : steps path = named path := by
    simp [steps, hslash]
  rw [modeOf, locate, hsteps, hwalk]

/-! ## Replacing

On the way the temporary file is in the tree, and neither the steps that follow nor the place of the
text depend on it. -/

/-- Whatever happens to the temporary file, the rest of the tree is what it was without it. -/
theorem erase_staged (t : Tree) (path : String) (directory : Place) (e : Entry) :
    (t.put (directory ++ [t.temporaryName path]) e).erase (directory ++ [t.temporaryName path])
      = t :=
  erase_put (fun _ he => ne_temporary_of_mem t path directory he) e

/-- The temporary file takes the place at the end of the path as if it had been put there. -/
theorem rename_staged (t : Tree) (path : String) (directory : Place) (e : Entry) :
    (t.put (directory ++ [t.temporaryName path]) e).rename (directory ++ [t.temporaryName path]) path
      = (t.target path).map (t.put · e) := by
  -- no part of the path has the name of the temporary file
  have htarget : (t.put (directory ++ [t.temporaryName path]) e).target path = t.target path := by
    refine target_congr fun q hq => get?_put_of_ne t _ ?_
    rintro rfl
    refine temporaryName_not_mem_pieces t path (hq _ ?_)
    exact List.mem_append_right _ (List.mem_singleton.mpr rfl)
  unfold rename
  rw [htarget, get?_put_self t _ _ (by simp), erase_staged]
  cases t.target path <;> rfl

@[simp] theorem makeDirectoriesOn_none (t : Tree) (path : String) :
    t.makeDirectoriesOn none path = t.makeDirectories path := rfl

@[simp] theorem stageOn_none (t : Tree) (temporary : Place) (text : String) (mode : Nat) :
    t.stageOn none temporary text mode = (t.put temporary (.file ⟨.text text, mode⟩), none) := rfl

@[simp] theorem renameOn_none (t : Tree) (source : Place) (path : String) :
    t.renameOn none source path = t.rename source path := rfl

/-- **The temporary file leaves no trace.** The text is in its place, or the tree is what it was after
the directories were made. -/
theorem replace_eq (t : Tree) (path text : String) :
    t.replace path text =
      match t.makeDirectories (parent path) with
      | (t, some cause) => (t, some (.createDirectory (parent path) cause))
      | (t, none) =>
        match t.target path with
        | .ok p => (t.put p (.file ⟨.text text, t.modeAt p⟩), none)
        | .error cause => (t, some (.replace path cause)) := by
  unfold replace replaceOn
  cases hmade : t.makeDirectories (parent path) with
  | mk made failed =>
      cases failed with
      | some cause => simp only [makeDirectoriesOn_none, hmade]
      | none =>
          obtain ⟨directory, hlocate, -⟩ := isDirectory_iff.mp (isDirectory_of_makeDirectories hmade)
          simp only [makeDirectoriesOn_none, hmade, hlocate, stageOn_none, renameOn_none,
            rename_staged, erase_staged]
          cases htarget : made.target path with
          | error cause => rfl
          | ok p => rw [modeOf_of_target htarget, Except.map]

/-- **A text that was written is in its place**, with the mode of the file that was there, and no
other file has changed. -/
theorem replace_ok {t t' : Tree} {path text : String} (h : t.replace path text = (t', none)) :
    t.Extends (· = placeOf path) t'
      ∧ t'.get? (placeOf path) = some (.file ⟨.text text, t.modeAt (placeOf path)⟩) := by
  rw [replace_eq] at h
  split at h
  · cases h
  · next t₁ hmade =>
      have hext : t.Extends (fun _ => False) t₁ := by
        have := extends_makeDirectories t (parent path)
        rwa [hmade] at this
      split at h
      · next p htarget =>
          cases h
          obtain ⟨rfl, hne⟩ := placeOf_of_target htarget
          obtain ⟨-, hwalk, -, hdir⟩ := target_eq_ok.mp htarget
          refine ⟨(hext.mono fun _ => False.elim).trans (extends_put_file hwalk hne hdir _), ?_⟩
          rw [get?_put_self _ _ _ hne, hext.modeAt]
      · cases h

/-- A text can be written where its directory can be made and its place can hold a file. What the text
is does not matter. -/
theorem replace_written_of_target {t : Tree} {path : String} (text : String)
    (hmade : (t.makeDirectories (parent path)).2 = none)
    (htarget : ((t.makeDirectories (parent path)).1.target path).isOk = true) :
    (t.replace path text).2 = none := by
  rw [replace_eq]
  cases hmake : t.makeDirectories (parent path) with
  | mk made failed =>
      rw [hmake] at hmade htarget
      simp only at hmade htarget
      subst hmade
      cases hplace : made.target path with
      | ok p => simp only [hplace]
      | error cause =>
          rw [hplace] at htarget
          cases htarget

/-- The directories above a text are made whether it can be written or not. -/
theorem isDirectory_parent_replace {t : Tree} {path : String} (text : String)
    (h : (t.makeDirectories (parent path)).2 = none) :
    (t.replace path text).1.isDirectory (parent path) = true := by
  rw [replace_eq]
  cases hmade : t.makeDirectories (parent path) with
  | mk made failed =>
      rw [hmade] at h
      simp only at h
      subst h
      have hdir := isDirectory_of_makeDirectories hmade
      simp only
      split
      · next p htarget =>
          obtain ⟨rfl, hne⟩ := placeOf_of_target htarget
          obtain ⟨-, hwalk, -, hnot⟩ := target_eq_ok.mp htarget
          exact (extends_put_file hwalk hne hnot _).isDirectory hdir
      · exact hdir

/-- **Where a text could not be written, no file has changed.** -/
theorem replace_error {t t' : Tree} {path text : String} {e : WriteError}
    (h : t.replace path text = (t', some e)) : t.Extends (fun _ => False) t' := by
  have hext := extends_makeDirectories t (parent path)
  rw [replace_eq] at h
  split at h
  · next t₁ cause hmade =>
      cases h
      rwa [hmade] at hext
  · next t₁ hmade =>
      rw [hmade] at hext
      split at h
      · cases h
      · cases h
        exact hext

end DocCatalog.Tree
