import DocCatalog.Proofs.Files.Replacement
import DocCatalog.Proofs.Files.Straight
import Mathlib.Data.List.Induction

/-!
# Writing again

A text that was written can be written again, with nothing to change. What kept it from being written
keeps it from being written again, whatever else has been done to the tree.

* **`Blocked`**: a file is where a directory would have to be, which stays so.
* **`Leads.makeDirectories`**: straight down nothing but a file keeps directories from being made.
* **`replace_again`**, **`replace_error_again`**: the second time.
-/

namespace DocCatalog.Tree

open DocCatalog.Path

/-! ## Ways that cannot be gone

A way fails where something is missing, or where a file is in it. Going on from there fails for the
same reason. -/

theorem walk_error {t : Tree} {p : Place} {steps : List Step} {e : FileError}
    (h : t.walk p steps = .error e) : e = .notFound ∨ e = .notDirectory := by
  induction steps generalizing p with
  | nil => cases h
  | cons step steps ih =>
      rw [walk_cons] at h
      split at h
      · exact ih h
      · exact Or.inr (Except.error.inj h).symm
      · exact Or.inl (Except.error.inj h).symm

/-- What cannot be gone cannot be gone further. -/
theorem walk_append_error {t : Tree} {p : Place} {a : List Step} {e : FileError}
    (h : t.walk p a = .error e) (b : List Step) : t.walk p (a ++ b) = .error e := by
  induction a generalizing p with
  | nil => cases h
  | cons step steps ih =>
      rw [List.cons_append, walk_cons]
      rw [walk_cons] at h
      split at h
      · exact ih h
      · exact h
      · exact h

/-- A way in two parts is gone one after the other, if at all. -/
theorem walk_append_eq (t : Tree) (p : Place) (a b : List Step) :
    t.walk p (a ++ b) = (t.walk p a).bind fun q => t.walk q b := by
  cases h : t.walk p a with
  | ok q => rw [walk_append h, Except.bind]
  | error e => rw [walk_append_error h, Except.bind]

/-! ## Directories that cannot be made

A directory cannot be made if a file is on the way to it or in its place. This does not change when
the tree grows. -/

/-- A file is where a directory would have to be, at the end of the path or on the way. -/
inductive Blocked (t : Tree) (path : String) : FileError → Prop
  | onTheWay (h : t.walk [] (named path) = .error .notDirectory) : Blocked t path .notDirectory
  | there {p : Place} {f : File} (h : t.walk [] (named path) = .ok p)
      (hp : t.get? p = some (.file f)) : Blocked t path .exists

namespace Blocked

variable {t t' : Tree} {path : String} {e : FileError}

/-- What is blocked stays blocked. -/
theorem of_extends {written : Place → Prop} (h : Blocked t path e) (hext : t.Extends written t') :
    Blocked t' path e := by
  cases h with
  | onTheWay hwalk => exact .onTheWay (hext.walk_notDirectory hwalk)
  | there hwalk hp =>
      obtain ⟨f', hp'⟩ := hext.file hp
      exact .there (hext.walk hwalk) hp'

/-- There is no directory then. -/
theorem isDirectory_eq_false (h : Blocked t path e) : t.isDirectory path = false := by
  refine Bool.eq_false_iff.mpr fun hdir => ?_
  obtain ⟨hwalk', hp'⟩ := walk_named_of_isDirectory hdir
  cases h with
  | onTheWay hwalk =>
      rw [hwalk] at hwalk'
      cases hwalk'
  | there hwalk hp =>
      rw [hwalk] at hwalk'
      rw [← Except.ok.inj hwalk', hp] at hp'
      cases hp'

/-- Making it fails. -/
theorem makeDirectory (h : Blocked t path e) : t.makeDirectory path = .error e := by
  cases h with
  | onTheWay hwalk => simp [Tree.makeDirectory, hwalk, bind, Except.bind]
  | there hwalk hp => simp [Tree.makeDirectory, hwalk, hp, bind, Except.bind]

/-- Where a file is in the way, no directory is made. -/
theorem makeDirectories (h : Blocked t path e) : t.makeDirectories path = (t, some e) := by
  have hdir := h.isDirectory_eq_false
  have hmake := h.makeDirectory
  unfold Tree.makeDirectories ancestors makeFirst
  rw [hmake]
  cases h with
  | onTheWay => simp [hdir]
  | there => simp [hdir]

end Blocked

namespace Leads

variable {t : Tree} {path n : String} {top : Place} {names : List String}

/-- The way to a path is that to the path above, with one step more. -/
theorem walk_named_append (h : t.Leads path top (names ++ [n])) :
    t.walk [] (named path)
      = (t.walk [] (named (parent path))).bind fun p => t.walk p [.into n] := by
  have hparent := h.parent_append.1.walk_named
  have hpath := h.walk_named
  rw [List.map_append, List.map_singleton, walk_append_eq] at hpath
  rw [hpath, hparent]

/-- The way can be gone when there is a directory above. -/
theorem walk_of_parent (h : t.Leads path top (names ++ [n]))
    (hparent : t.isDirectory (parent path) = true) :
    t.walk [] (named path) = .ok (placeOf path) := by
  obtain ⟨hwalk, hp⟩ := walk_named_of_isDirectory hparent
  have hpath : t.walk [] (named path) = .ok (placeOf (parent path) ++ [n]) := by
    rw [h.walk_named_append, hwalk, Except.bind, walk_cons_of_directory hp, walk_nil, Step.from]
  rw [hpath, walk_eq_follow hpath, placeOf]

/-- What keeps a directory from being made keeps those below it from being made. -/
theorem blocked_of_parent (h : t.Leads path top (names ++ [n])) {e : FileError}
    (hparent : Blocked t (parent path) e) : t.walk [] (named path) = .error .notDirectory := by
  rw [h.walk_named_append]
  cases hparent with
  | onTheWay hwalk =>
      rw [hwalk]
      rfl
  | there hwalk hp =>
      rw [hwalk, Except.bind, walk_cons, hp]

/-- A file in the tree has no way to it that ends in nothing. -/
theorem walk_ne_notFound_of_file (h : t.Leads path top names) (hw : t.WellFormed) {f : File}
    (hf : t.get? (placeOf path) = some (.file f)) :
    t.walk [] (named path) ≠ .error .notFound := by
  rw [h.placeOf_eq] at hf
  rw [h.walk_named, hw.walk_map_into (by rw [hf]; exact Option.some_ne_none _)]
  exact fun hnot => (nomatch hnot)

/-- A directory that cannot be made for want of the one above is made when that is. -/
theorem makeDirectories_of_notFound (h : t.Leads path top (names ++ [n]))
    (hwalk : t.walk [] (named path) = .error .notFound) :
    t.makeDirectories path
      = match t.makeDirectories (parent path) with
        | (started, some e) => (started, some e)
        | (started, none) =>
          match started.makeDirectory path with
          | .ok made => (made, none)
          | .error e => (started, if started.isDirectory path then none else some e) := by
  have hancestors := h.parent_append.2
  have hmissing : t.makeDirectory path = .error .notFound := by
    simp [Tree.makeDirectory, hwalk, bind, Except.bind]
  rcases hfirst : t.makeFirst (ancestors (parent path)) with ⟨started, - | e⟩
  · cases hmade : started.makeDirectory path with
    | ok made => simp only [Tree.makeDirectories, hancestors, makeFirst, hmissing, hfirst, hmade]
    | error e => simp only [Tree.makeDirectories, hancestors, makeFirst, hmissing, hfirst, hmade]
  · simp only [Tree.makeDirectories, hancestors, makeFirst, hmissing, hfirst]

/-- What was not found is made when the directory above it has been. -/
theorem makeDirectories_behind (hw : t.WellFormed) (h : t.Leads path top (names ++ [n]))
    (hwalk : t.walk [] (named path) = .error .notFound) {started : Tree}
    (hstarted : t.makeDirectories (parent path) = (started, none)) :
    ∃ t', t.makeDirectories path = (t', none) := by
  have hext := extends_makeDirectories t (parent path)
  have hdir := isDirectory_of_makeDirectories hstarted
  rw [hstarted] at hext
  have hway := (h.of_extends hext).walk_of_parent hdir
  rw [h.makeDirectories_of_notFound hwalk, hstarted]
  cases hthere : started.get? (placeOf path) with
  | none => simp [Tree.makeDirectory, hway, hthere, bind, Except.bind]
  | some entry =>
      cases entry with
      | directory =>
          have hthere' := isDirectory_of_walk_named hway hthere
          simp [Tree.makeDirectory, hway, hthere, hthere', bind, Except.bind]
      | file f =>
          -- a file was there before, and with it the way
          have hf : t.fileAt? (placeOf path) = some f := by
            rw [← hext.fileAt not_false, fileAt?_eq_some, hthere]
          exact absurd hwalk (h.walk_ne_notFound_of_file hw (fileAt?_eq_some.mp hf))

/-- **Straight down nothing but a file keeps directories from being made.** -/
theorem makeDirectories (hw : t.WellFormed) (h : t.Leads path top names) :
    (∃ t', t.makeDirectories path = (t', none)) ∨ ∃ e, Blocked t path e := by
  -- by induction on the names, the last one first: what is above is made before
  induction names using List.reverseRecOn generalizing path with
  | nil =>
      have hwalk := h.walk_named
      obtain ⟨-, -, -, htop, -⟩ := h
      exact Or.inl ⟨t, makeDirectories_of_isDirectory (isDirectory_of_walk_named hwalk htop)⟩
  | append_singleton names n ih =>
      obtain ⟨hparent, hancestors⟩ := h.parent_append
      cases hwalk : t.walk [] (named path) with
      | ok p =>
          cases hp : t.get? p with
          | none =>
              refine Or.inl ⟨t.put p .directory, ?_⟩
              simp [Tree.makeDirectories, ancestors, makeFirst, Tree.makeDirectory, hwalk, hp, bind,
                Except.bind]
          | some entry =>
              cases entry with
              | file f => exact Or.inr ⟨_, .there hwalk hp⟩
              | directory =>
                  have hdir := isDirectory_of_walk_named hwalk hp
                  exact Or.inl ⟨t, makeDirectories_of_isDirectory hdir⟩
      | error e =>
          rcases walk_error hwalk with rfl | rfl
          · rcases ih hparent with ⟨started, hstarted⟩ | ⟨e, hblocked⟩
            · exact Or.inl (h.makeDirectories_behind hw hwalk hstarted)
            · -- a file above would have been in the way
              rw [h.blocked_of_parent hblocked] at hwalk
              cases hwalk
          · exact Or.inr ⟨_, .onTheWay hwalk⟩

/-- The way to the path can be gone when that to the path above ends in a directory. -/
theorem walk_of_isDirectory_parent (h : t.Leads path top names)
    (hparent : t.isDirectory (parent path) = true) :
    t.walk [] (named path) = .ok (placeOf path) := by
  rcases List.eq_nil_or_concat names with rfl | ⟨before, m, rfl⟩
  · have hwalk := h.walk_named
    rw [List.map_nil, walk_nil] at hwalk
    rw [hwalk, walk_eq_follow hwalk, placeOf]
  · rw [List.concat_eq_append] at h
    exact h.walk_of_parent hparent

/-- Above a place straight down directories can be made, or a file is in the way of them. -/
theorem makeDirectories_parent (hw : t.WellFormed) (h : t.Leads path top names) :
    (∃ t', t.makeDirectories (parent path) = (t', none)) ∨ ∃ e, Blocked t (parent path) e := by
  rcases List.eq_nil_or_concat names with rfl | ⟨before, m, rfl⟩
  · have hparent := isDirectory_parent_of_walk h.walk_named
    exact Or.inl ⟨t, makeDirectories_of_isDirectory hparent⟩
  · rw [List.concat_eq_append] at h
    exact h.parent_append.1.makeDirectories hw

end Leads

/-! ## The second time

A text that was written is in its place, and the directories above it are there. -/

/-- What is not a place for a file does not become one. -/
theorem target_error_again {t t' : Tree} {path : String} {p : Place} {e : FileError}
    {written : Place → Prop} (hext : t.Extends written t') (hwalk : t.walk [] (named path) = .ok p)
    (h : t.target path = .error e) : t'.target path = .error e := by
  unfold target at h ⊢
  -- the path ends in a name, or it ends where no file can be
  split at h
  · next n hlast =>
      rw [hwalk] at h
      rw [hext.walk hwalk]
      simp only [bind, Except.bind] at h ⊢
      -- a path with a slash at its end fails by its text, any other by what is there already
      split at h
      · next hslash => rw [if_pos hslash]; exact h
      · next hslash =>
          rw [if_neg hslash]
          split at h
          · next hp => rw [hext.directory (eq_of_beq hp)]; exact h
          · cases h
  · obtain ⟨rest, hrest⟩ := List.dropLast_prefix (named path)
    rw [← hrest] at hwalk
    obtain ⟨hfront, -⟩ := walk_of_append hwalk
    rw [hfront] at h
    rw [hext.walk hfront]
    exact h

section

variable {a b s : Tree} {path text : String} {written : Place → Prop}

/-- **What kept a text from being written still does**, and nothing is changed by trying again. -/
theorem replace_error_again {top : Place} {names : List String} {e : WriteError}
    (hw : a.WellFormed) (hleads : a.Leads path top names)
    (h : a.replace path text = (b, some e)) (hext : b.Extends written s) (text' : String) :
    s.replace path text' = (s, some e) := by
  rw [replace_eq] at h ⊢
  -- the directories were made, and then the target was at fault, or something stood in their way
  rcases hleads.makeDirectories_parent hw with ⟨made, hmade⟩ | ⟨cause, hblocked⟩
  · have hdir := isDirectory_of_makeDirectories hmade
    have hmadeExt := extends_makeDirectories a (parent path)
    rw [hmade] at h hmadeExt
    simp only at h
    split at h
    · cases h
    · next cause htarget =>
        cases h
        have hwalk := (hleads.of_extends hmadeExt).walk_of_isDirectory_parent hdir
        rw [makeDirectories_of_isDirectory (hext.isDirectory hdir)]
        simp only [target_error_again hext hwalk htarget]
  · rw [hblocked.makeDirectories] at h
    cases h
    rw [(hblocked.of_extends hext).makeDirectories]

/-- **A text that was written can be written again**, and nothing is changed by that. It is read as it
was written. -/
theorem replace_again (h : a.replace path text = (b, none)) (hext : b.Extends written s)
    (hplace : s.fileAt? (placeOf path) = b.fileAt? (placeOf path)) :
    s.readText path = .ok text
      ∧ ∃ s', s.replace path text = (s', none) ∧ ∀ p, s'.get? p = s.get? p := by
  have hput := (replace_ok h).2
  rw [replace_eq] at h
  split at h
  · cases h
  · next made hmade =>
      have hdir := isDirectory_of_makeDirectories hmade
      split at h
      · next p htarget =>
          cases h
          obtain ⟨rfl, hne⟩ := placeOf_of_target htarget
          obtain ⟨hlast, hwalk, hslash, hnot⟩ := target_eq_ok.mp htarget
          have hput' := extends_put_file hwalk hne hnot ⟨.text text, made.modeAt (placeOf path)⟩
          have hway : s.walk [] (named path) = .ok (placeOf path) := hext.walk (hput'.walk hwalk)
          have hfile := fileAt?_eq_some.mp (hplace.trans (fileAt?_eq_some.mpr hput))
          have hlocate : s.locate path = .ok (placeOf path) := by
            rw [locate, steps, hslash, if_neg Bool.false_ne_true, List.append_nil, hway]
          refine ⟨readText_eq_ok.mpr ⟨_, hlocate, hfile, rfl⟩, ?_⟩
          have htarget' : s.target path = .ok (placeOf path) := by
            refine target_eq_ok.mpr ⟨hlast, hway, hslash, ?_⟩
            rw [hfile]
            simp
          rw [replace_eq, makeDirectories_of_isDirectory (hext.isDirectory (hput'.isDirectory hdir))]
          simp only [htarget']
          refine ⟨_, rfl, fun q => ?_⟩
          by_cases hq : q = placeOf path
          · -- the file is put where it is already, with the mode that it has
            have hmode : s.modeAt (placeOf path) = a.modeAt (placeOf path) := by
              rw [modeAt, fileAt?_eq_some.mpr hfile]
            rw [hq, get?_put_self _ _ _ hne, hfile, hmode]
          · rw [get?_put_of_ne s _ hq]
      · cases h

end

end DocCatalog.Tree
