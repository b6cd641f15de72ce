import DocCatalog.Proofs.Files.Ways
import DocCatalog.Files.Replace

/-!
# Trees that grow

Nothing that is done to a tree takes anything away: directories and files stay what they are, and
the only files that change are those that are written.

* **`Tree.Extends`**: the relation between a tree and what becomes of it.
* **`Extends.walk`**, **`Extends.walk_notDirectory`**: which ways can still be gone, and which cannot.
* **`extends_makeDirectories`**: making directories changes no file.
* **`isDirectory_of_makeDirectories`**: a directory that has been made is there.
-/

namespace DocCatalog.Tree

open DocCatalog.Path

/-- `t.Extends written t'`: every directory and every file of `t` still is one in `t'`, and the
files of both are the same but at the places that have been written. What is new lies in
directories. -/
structure Extends (written : Place → Prop) (t t' : Tree) : Prop where
  directory : ∀ {p : Place}, t.get? p = some .directory → t'.get? p = some .directory
  file : ∀ {p : Place} {f : File}, t.get? p = some (.file f) → ∃ f', t'.get? p = some (.file f')
  fileAt : ∀ {p : Place}, ¬ written p → t'.fileAt? p = t.fileAt? p
  wellFormed : t.WellFormed → t'.WellFormed

namespace Extends

variable {t t' t'' : Tree} {written : Place → Prop}

theorem refl (written : Place → Prop) (t : Tree) : t.Extends written t :=
  ⟨fun h => h, fun {_ f} h => ⟨f, h⟩, fun _ => rfl, fun h => h⟩

theorem trans (h : t.Extends written t') (h' : t'.Extends written t'') :
    t.Extends written t'' where
  directory hp := h'.directory (h.directory hp)
  file hp := by
    obtain ⟨f', hf'⟩ := h.file hp
    exact h'.file hf'
  fileAt hp := (h'.fileAt hp).trans (h.fileAt hp)
  wellFormed hw := h'.wellFormed (h.wellFormed hw)

/-- More may be allowed to change than has changed. -/
theorem mono {more : Place → Prop} (h : t.Extends written t')
    (hmore : ∀ p, written p → more p) : t.Extends more t' :=
  ⟨h.directory, h.file, fun hp => h.fileAt fun hw => hp (hmore _ hw), h.wellFormed⟩

/-! ## Ways

A way that could be gone can still be gone, and one that was blocked by a file still is. Only a way on
which something was missing may have been opened. -/

/-- A way that could be gone leads to the same place. -/
theorem walk (h : t.Extends written t') {p q : Place} {steps : List Step}
    (hwalk : t.walk p steps = .ok q) : t'.walk p steps = .ok q := by
  induction steps generalizing p with
  | nil => exact hwalk
  | cons step steps ih =>
      obtain ⟨hp, hrest⟩ := directory_of_walk_cons hwalk
      rw [walk_cons_of_directory (h.directory hp)]
      exact ih hrest

/-- A way that a file is in stays blocked. -/
theorem walk_notDirectory (h : t.Extends written t') {p : Place} {steps : List Step}
    (hwalk : t.walk p steps = .error .notDirectory) : t'.walk p steps = .error .notDirectory := by
  induction steps generalizing p with
  | nil => cases hwalk
  | cons step steps ih =>
      rw [walk_cons] at hwalk
      split at hwalk
      · next hp =>
          rw [walk_cons_of_directory (h.directory hp)]
          exact ih hwalk
      · next f hp =>
          obtain ⟨f', hp'⟩ := h.file hp
          rw [walk_cons, hp']
      · cases hwalk

/-- A path to a directory is one still. -/
theorem isDirectory (h : t.Extends written t') {path : String}
    (hpath : t.isDirectory path = true) : t'.isDirectory path = true := by
  obtain ⟨hwalk, hp⟩ := walk_named_of_isDirectory hpath
  exact isDirectory_of_walk_named (h.walk hwalk) (h.directory hp)

/-- A file that is not written is read as before. -/
theorem readText (h : t.Extends written t') {path text : String}
    (hread : t.readText path = .ok text) (hp : ¬ written (placeOf path)) :
    t'.readText path = .ok text := by
  obtain ⟨f, hlocate, hf, htext⟩ := readText_eq_ok.mp hread
  refine readText_eq_ok.mpr ⟨f, h.walk hlocate, ?_, htext⟩
  rw [← fileAt?_eq_some, h.fileAt hp, fileAt?_eq_some, hf]

/-- Where nothing is written the modes are the same. -/
theorem modeAt (h : t.Extends (fun _ => False) t') (p : Place) : t'.modeAt p = t.modeAt p := by
  rw [Tree.modeAt, h.fileAt not_false, Tree.modeAt]

end Extends

/-! ## What is put into a tree

An entry is put where a way leads to and where nothing is that it would take away. -/

/-- Something can be put where a way leads. -/
theorem wellFormed_put {t : Tree} {steps : List Step} {p : Place} {e : Entry} (hw : t.WellFormed)
    (hwalk : t.walk [] steps = .ok p) (hne : p ≠ [])
    (he : t.get? p = some .directory → e = .directory) : (t.put p e).WellFormed := by
  rcases hw.parent_of_walk (Or.inl rfl) hwalk with hnil | ⟨r, n, rfl, hr⟩
  · exact absurd hnil hne
  · exact hw.put hr he

/-- A directory is put where nothing is. -/
theorem extends_put_directory {t : Tree} {steps : List Step} {p : Place}
    (hwalk : t.walk [] steps = .ok p) (h : t.get? p = none) :
    t.Extends (fun _ => False) (t.put p .directory) := by
  have hne : p ≠ [] := by
    rintro rfl
    simp at h
  have hother : ∀ {q : Place} {e : Entry}, t.get? q = some e → (t.put p .directory).get? q = some e := by
    intro q e hq
    rw [get?_put_of_ne t _ (by rintro rfl; rw [h] at hq; cases hq), hq]
  refine ⟨hother, fun hq => ⟨_, hother hq⟩, ?_, fun hw => wellFormed_put hw hwalk hne fun _ => rfl⟩
  intro q _
  by_cases hq : q = p
  · rw [hq, fileAt?_of_none h, fileAt?_of_directory (get?_put_self t p _ hne)]
  · rw [fileAt?, fileAt?, get?_put_of_ne t _ hq]

/-- A file is put where no directory is, and what was there before is the only thing that changes.
-/
theorem extends_put_file {t : Tree} {steps : List Step} {p : Place}
    (hwalk : t.walk [] steps = .ok p) (hne : p ≠ []) (h : t.get? p ≠ some .directory) (f : File) :
    t.Extends (· = p) (t.put p (.file f)) := by
  refine ⟨?_, ?_, ?_, fun hw => wellFormed_put hw hwalk hne fun hp => absurd hp h⟩
  · intro q hq
    rw [get?_put_of_ne t _ (by rintro rfl; exact h hq), hq]
  · intro q g hg
    by_cases hq : q = p
    · exact ⟨f, hq ▸ get?_put_self t p _ hne⟩
    · exact ⟨g, by rw [get?_put_of_ne t _ hq, hg]⟩
  · intro q hq
    rw [fileAt?, fileAt?, get?_put_of_ne t _ hq]

/-! ## Directories that are made

The missing directories are made from the highest one down, and one that is there by then is no
failure. Every step only adds a directory, so the tree is extended wherever it ends. -/

/-- A directory is made at the place of its path, where nothing is. -/
theorem makeDirectory_eq_ok {t t' : Tree} {path : String} :
    t.makeDirectory path = .ok t' ↔
      t.walk [] (named path) = .ok (placeOf path) ∧ t.get? (placeOf path) = none
        ∧ t' = t.put (placeOf path) .directory := by
  unfold makeDirectory
  cases hw : t.walk [] (named path) with
  | error e => simp [bind, Except.bind]
  | ok p =>
      have hp : p = placeOf path := walk_eq_follow hw
      subst hp
      cases hg : t.get? (placeOf path) with
      | none => simp [bind, Except.bind, hg, eq_comm]
      | some e => simp [bind, Except.bind, hg]

/-- A directory that is made changes nothing else. -/
theorem extends_makeDirectory {t t' : Tree} {path : String} (h : t.makeDirectory path = .ok t') :
    t.Extends (fun _ => False) t' := by
  obtain ⟨hwalk, hnone, rfl⟩ := makeDirectory_eq_ok.mp h
  exact extends_put_directory hwalk hnone

theorem isDirectory_of_makeDirectory {t t' : Tree} {path : String}
    (h : t.makeDirectory path = .ok t') : t'.isDirectory path = true := by
  have hext := extends_makeDirectory h
  obtain ⟨hwalk, hnone, rfl⟩ := makeDirectory_eq_ok.mp h
  refine isDirectory_of_walk_named (hext.walk hwalk) (get?_put_self t _ _ ?_)
  intro hnil
  rw [hnil] at hnone
  simp at hnone

/-- Where a directory is already, none is made. -/
theorem makeDirectory_of_isDirectory {t : Tree} {path : String} (h : t.isDirectory path = true) :
    t.makeDirectory path = .error .exists := by
  obtain ⟨hwalk, hp⟩ := walk_named_of_isDirectory h
  simp [makeDirectory, hwalk, hp, bind, Except.bind]

theorem extends_makeFirst (t : Tree) (ancestors : List String) :
    t.Extends (fun _ => False) (t.makeFirst ancestors).1 := by
  -- along the directories, the lowest one first
  induction ancestors generalizing t with
  | nil => exact .refl _ t
  | cons path above ih =>
      unfold makeFirst
      split
      · next made h => exact extends_makeDirectory h
      · have habove := ih t
        split
        · next started e h => rwa [h] at habove
        · next started h =>
            rw [h] at habove
            split
            · next made hmade => exact habove.trans (extends_makeDirectory hmade)
            · exact habove
      · exact .refl _ t

/-- **Making directories changes no file.** -/
theorem extends_makeDirectories (t : Tree) (path : String) :
    t.Extends (fun _ => False) (t.makeDirectories path).1 :=
  extends_makeFirst t _

/-- **A directory that has been made is there.** -/
theorem isDirectory_of_makeDirectories {t t' : Tree} {path : String}
    (h : t.makeDirectories path = (t', none)) : t'.isDirectory path = true := by
  -- it was made at once, or behind those above it, or it was there
  unfold makeDirectories ancestors makeFirst at h
  split at h
  · next made hmade =>
      cases h
      exact isDirectory_of_makeDirectory hmade
  · split at h
    · cases h
    · split at h
      · next made hmade =>
          cases h
          exact isDirectory_of_makeDirectory hmade
      · split at h
        · next hdir =>
            cases h
            exact hdir
        · cases h
  · split at h
    · next hdir =>
        cases h
        exact hdir
    · cases h

/-- Where a directory is already, none is made above it either. -/
theorem makeDirectories_of_isDirectory {t : Tree} {path : String}
    (h : t.isDirectory path = true) : t.makeDirectories path = (t, none) := by
  simp [makeDirectories, ancestors, makeFirst, makeDirectory_of_isDirectory h, h]

end DocCatalog.Tree
