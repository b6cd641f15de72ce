import DocCatalog.Proofs.Files.Beside

/-!
# All or nothing

A file is replaced as a whole, or all files are what they were. This holds wherever the device gives
up: what it has done by then is to make directories and to fill the temporary file, which is removed.

* **`AllOrNothing`**: what there is behind a replacement.
* **`replaceOn_ok`**, **`replaceOn_error`**: one that gets to its end, and one that does not.
* **`Leads.replace_written`**: nothing but a file above its place or a directory there keeps a text from
  being written.
* **`replaceOn_allOrNothing`**: a replacement on any device.
-/

namespace DocCatalog.Tree

open DocCatalog.Path

/-- What is left when the text was to be put into the file at the end of the path. -/
structure AllOrNothing (t : Tree) (path text : String) (left : Tree × Option WriteError) : Prop where
  /-- The file has the mode of the one that was there. -/
  written : left.2 = none → left.1.entryAt path
    = .ok (.file ⟨.text text, ((t.fileAt? (placeOf path)).map File.mode).getD 0o644⟩)
  others : left.2 = none → ∀ p, p ≠ placeOf path → left.1.fileAt? p = t.fileAt? p
  untouched : left.2 ≠ none → ∀ p, left.1.fileAt? p = t.fileAt? p
  noTemporary : ∀ p, (left.1.fileAt? p).isSome = true →
    (t.fileAt? p).isSome = true ∨ left.2 = none ∧ p = placeOf path
  /-- Directories may have been made, but all that were there still are. -/
  directories : ∀ p, t.get? p = some .directory → left.1.get? p = some .directory

/-! ## Steps on a device

A device can give up at any step. What it has done of a step by then is a part of the step, and a
step that it has done to the end is the usual one. -/

section Device

variable {device : Device} {t t' : Tree}

/-- Whatever directories a device makes, no file has changed. -/
theorem extends_makeDirectoriesOn (device : Device) (t : Tree) (path : String) :
    t.Extends (fun _ => False) (t.makeDirectoriesOn device path).1 := by
  unfold makeDirectoriesOn
  split
  · exact extends_makeFirst t _
  · exact extends_makeDirectories t path

/-- Directories that were made were made as usual. -/
theorem makeDirectoriesOn_ok {path : String} (h : t.makeDirectoriesOn device path = (t', none)) :
    t.makeDirectories path = (t', none) := by
  unfold makeDirectoriesOn at h
  split at h
  · cases h
  · exact h

/-- However far the temporary file gets, nothing is left of it when it is removed. -/
theorem erase_stageOn (device : Device) (t : Tree) (path : String) (directory : Place)
    (text : String) (mode : Nat) :
    (t.stageOn device (directory ++ [t.temporaryName path]) text mode).1.erase
      (directory ++ [t.temporaryName path]) = t := by
  unfold stageOn
  split
  -- it was not even created
  case h_1 =>
    have hall := List.filter_eq_self.mpr fun e he =>
      bne_iff_ne.mpr (ne_temporary_of_mem t path directory he)
    rw [erase, hall]
  all_goals exact erase_staged t path directory _

/-- A temporary file that was filled was filled as usual. -/
theorem stageOn_ok {temporary : Place} {text : String} {mode : Nat}
    (h : t.stageOn device temporary text mode = (t', none)) :
    t.put temporary (.file ⟨.text text, mode⟩) = t' := by
  unfold stageOn at h
  split at h
  case h_5 => exact (Prod.mk.inj h).1
  all_goals cases h

/-- A file that was moved was moved as usual. -/
theorem renameOn_ok {source : Place} {path : String} (h : t.renameOn device source path = .ok t') :
    t.rename source path = .ok t' := by
  unfold renameOn at h
  split at h
  · cases h
  · exact h

variable {path text : String}

/-- **A replacement that gets to its end** does what it does where nothing is refused. -/
theorem replaceOn_ok (h : t.replaceOn device path text = (t', none)) :
    t.replace path text = (t', none) := by
  unfold replaceOn at h
  simp only at h
  split at h
  · cases h
  · next made hmade =>
      split at h
      · cases h
      · next directory hlocate =>
          split at h
          · cases h
          · next staged hstaged =>
              split at h
              · next renamed hrenamed =>
                  cases h
                  unfold replace replaceOn
                  simp only [makeDirectoriesOn_none, makeDirectoriesOn_ok hmade, hlocate,
                    stageOn_none, renameOn_none, stageOn_ok hstaged, renameOn_ok hrenamed]
              · cases h

/-- **A replacement that does not get to its end** has made directories at most. -/
theorem replaceOn_error {e : WriteError} (h : t.replaceOn device path text = (t', some e)) :
    t.Extends (fun _ => False) t' := by
  have hext := extends_makeDirectoriesOn device t (parent path)
  unfold replaceOn at h
  simp only at h
  -- one exit for each thing that may fail
  split at h
  · next made cause hmade =>
      cases h
      rwa [hmade] at hext
  · next made hmade =>
      rw [hmade] at hext
      split at h
      · cases h
        exact hext
      · next directory hlocate =>
          have herase := erase_stageOn device made path directory text (made.modeOf path)
          split at h
          · next staged cause hstaged =>
              cases h
              rw [hstaged] at herase
              rwa [herase]
          · next staged hstaged =>
              rw [hstaged] at herase
              split at h
              · cases h
              · cases h
                rwa [herase]

end Device

/-! ## When a text is written

On a device that never gives up a text is written unless the tree is in the way of it. -/

/-- **Nothing but a file above its place or a directory there keeps a text from being written**, when
its path leads straight down. -/
theorem Leads.replace_written {t : Tree} {path : String} {top : Place} {names : List String}
    (hw : t.WellFormed) (h : t.Leads path top names) (hne : names ≠ [])
    (habove : ∀ q, q <+: placeOf (parent path) → t.fileAt? q = none)
    (hplace : t.get? (placeOf path) ≠ some .directory) (text : String) :
    (t.replace path text).2 = none := by
  obtain ⟨before, n, hnames⟩ := (List.eq_nil_or_concat names).resolve_left hne
  rw [List.concat_eq_append] at hnames
  subst hnames
  have hparent := h.parent_append.1
  rcases hparent.makeDirectories hw with ⟨made, hmade⟩ | ⟨e, hblocked⟩
  · have hext := extends_makeDirectories t (parent path)
    have hthere := h.get?_makeDirectories_parent fun _ => rfl
    rw [hmade] at hext hthere
    have hwalk := (h.of_extends hext).walk_of_isDirectory_parent (isDirectory_of_makeDirectories hmade)
    have hslash := h.endsInSlash_eq_false hne
    obtain ⟨high, hpieces, -, -, hsteps⟩ := h
    have hlast : (named path).getLast? = some (.into n) := by
      rw [named, hpieces, List.filterMap_append, filterMap_ofPiece? hsteps, List.map_append,
        ← List.append_assoc]
      exact List.getLast?_concat
    have htarget : made.target path = .ok (placeOf path) :=
      target_eq_ok.mpr ⟨⟨n, hlast⟩, hwalk, hslash, hthere ▸ hplace⟩
    rw [replace_eq, hmade]
    simp only [htarget]
  · -- a file is in the way
    obtain ⟨q, f, hq, hf⟩ := hblocked.exists_file hparent
    rw [← fileAt?_eq_some, habove q hq] at hf
    cases hf

/-! ## All or nothing

The two ways to end, for any device. -/

/-- **All**: a text that was written has replaced the file. -/
theorem allOrNothing_of_ok {t t' : Tree} {path text : String}
    (h : t.replace path text = (t', none)) : AllOrNothing t path text (t', none) := by
  obtain ⟨hext, hfile⟩ := replace_ok h
  obtain ⟨hread, -⟩ := replace_again h (.refl (fun _ => False) t') rfl
  obtain ⟨-, hlocate, -, -⟩ := readText_eq_ok.mp hread
  have hmode : t.modeAt (placeOf path) = ((t.fileAt? (placeOf path)).map File.mode).getD 0o644 := by
    rw [modeAt]
    cases t.fileAt? (placeOf path) <;> rfl
  refine ⟨fun _ => ?_, fun _ p hp => hext.fileAt hp, fun hnot => absurd rfl hnot, ?_,
    fun p hp => hext.directory hp⟩
  · rw [← hmode, entryAt, hlocate]
    simp [bind, Except.bind, hfile]
  · intro p hp
    by_cases hplace : p = placeOf path
    · exact Or.inr ⟨rfl, hplace⟩
    · rw [hext.fileAt hplace] at hp
      exact Or.inl hp

/-- **Nothing**: where it was not, the tree has at most more directories. -/
theorem allOrNothing_of_error {t t' : Tree} {path text : String} {e : WriteError}
    (hext : t.Extends (fun _ => False) t') : AllOrNothing t path text (t', some e) where
  written hnone := nomatch hnone
  others hnone := nomatch hnone
  untouched _ p := hext.fileAt not_false
  noTemporary p hp := by
    rw [hext.fileAt not_false] at hp
    exact Or.inl hp
  directories p hp := hext.directory hp

/-- **A text is written as a whole or not at all**, on every device and wherever it gives up. On a
device that refuses nothing it is written, unless a file is above its place or a directory there. -/
theorem replaceOn_allOrNothing (t : Tree) (path text : String) :
    (∀ device, AllOrNothing t path text (t.replaceOn device path text))
      ∧ (t.WellFormed → ∀ top names, t.Leads path top names → names ≠ [] →
        (∀ q, q <+: placeOf (parent path) → t.fileAt? q = none) →
        t.get? (placeOf path) ≠ some .directory → (t.replace path text).2 = none) := by
  refine ⟨fun device => ?_, fun hw top names h hne habove hplace => ?_⟩
  · cases hleft : t.replaceOn device path text with
    | mk t' failed =>
        cases failed with
        | none => exact allOrNothing_of_ok (replaceOn_ok hleft)
        | some e => exact allOrNothing_of_error (replaceOn_error hleft)
  · exact h.replace_written hw hne habove hplace text

/-- A file that only its owner may read, in a directory. -/
def ownedTree : Tree where
  entries :=
    [(["p"], .directory),
     (["p", "o.ts"], .file ⟨.text "old", 0o600⟩)]

/-- The file is replaced, or left alone when the new text cannot be flushed. -/
theorem replaceOn_allOrNothing_owned :
    ownedTree.WellFormed ∧ ownedTree.Leads "/p/o.ts" ["p"] ["o.ts"]
      ∧ (∀ q, q <+: placeOf (parent "/p/o.ts") → ownedTree.fileAt? q = none)
      ∧ ownedTree.get? (placeOf "/p/o.ts") ≠ some .directory
      ∧ (ownedTree.replace "/p/o.ts" "new").2 = none
      ∧ AllOrNothing ownedTree "/p/o.ts" "new" (ownedTree.replace "/p/o.ts" "new")
      ∧ AllOrNothing ownedTree "/p/o.ts" "new"
          (ownedTree.replaceOn (some (.flush, .refused "No space left on device (os error 28)"))
            "/p/o.ts" "new") := by
  have hw : ownedTree.WellFormed := by decide
  have hleads : ownedTree.Leads "/p/o.ts" ["p"] ["o.ts"] :=
    ⟨["", "p"], by decide, by rfl, by rfl, by decide⟩
  have habove : ∀ q, q <+: placeOf (parent "/p/o.ts") → ownedTree.fileAt? q = none := by
    have hparent : placeOf (parent "/p/o.ts") = ["p"] := by decide
    intro q hq
    rw [hparent, List.prefix_cons_iff] at hq
    rcases hq with rfl | ⟨rest, rfl, hrest⟩
    · rfl
    · rw [List.prefix_nil.mp hrest]
      rfl
  have hplace : ownedTree.get? (placeOf "/p/o.ts") ≠ some .directory := by decide
  obtain ⟨hall, hwritten⟩ := replaceOn_allOrNothing ownedTree "/p/o.ts" "new"
  exact ⟨hw, hleads, habove, hplace, hwritten hw _ _ hleads (by decide) habove hplace, hall none,
    hall _⟩

end DocCatalog.Tree
