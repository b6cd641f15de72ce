import DocCatalog.Proofs.Files.Again

/-!
# Writing beside other files

Where a text is written straight down, the tree changes on the way to its place only. So what has been
written elsewhere decides nothing about it: neither whether it can be written, nor what keeps it from
being written.

* **`Leads.get?_makeDirectories`**, **`Leads.get?_replace`**: where the tree changes.
* **`Blocked.exists_file`**: what is in the way of a directory is a file above it.
* **`Leads.replace_beside`**: a text can be written in a tree that has grown elsewhere as in the tree
  before.
-/

namespace DocCatalog.Tree

open DocCatalog.Path

/-! ## Where the tree changes

A text is written at one place, and directories are made on the way there. A place that is not on
the way is left as it is, whatever comes of the writing. -/

theorem get?_makeDirectory {t t' : Tree} {path : String} (h : t.makeDirectory path = .ok t')
    {p : Place} (hp : p ≠ placeOf path) : t'.get? p = t.get? p := by
  obtain ⟨-, -, rfl⟩ := makeDirectory_eq_ok.mp h
  exact get?_put_of_ne t _ hp

namespace Leads

variable {t : Tree} {path : String} {top : Place} {names : List String} {p : Place}

/-- A path that leads to a directory in which it takes no step further is that directory. -/
theorem isDirectory_of_nil (h : t.Leads path top []) : t.isDirectory path = true := by
  have hwalk := h.walk_named
  obtain ⟨-, -, -, htop, -⟩ := h
  exact isDirectory_of_walk_named hwalk htop

/-- The place of the path above is the one above. -/
theorem placeOf_append {n : String} (h : t.Leads path top (names ++ [n])) :
    placeOf path = placeOf (parent path) ++ [n] := by
  rw [h.placeOf_eq, h.parent_append.1.placeOf_eq, List.append_assoc]

/-- **Directories are made on the way to their place only.** -/
theorem get?_makeDirectories (h : t.Leads path top names) (hp : ¬ p <+: placeOf path) :
    (t.makeDirectories path).1.get? p = t.get? p := by
  -- by induction on the names, the last one first: what is above is made before
  induction names using List.reverseRecOn generalizing path with
  | nil => rw [makeDirectories_of_isDirectory h.isDirectory_of_nil]
  | append_singleton names n ih =>
      have hmade : ∀ {s s' : Tree}, s.makeDirectory path = .ok s' → s'.get? p = s.get? p := by
        intro s s' hs
        refine get?_makeDirectory hs ?_
        rintro rfl
        exact hp List.prefix_rfl
      have habove : ¬ p <+: placeOf (parent path) := by
        rw [h.placeOf_append] at hp
        exact fun hup => hp (hup.trans (List.prefix_append _ _))
      have hparent := ih h.parent_append.1 habove
      rw [Tree.makeDirectories] at hparent ⊢
      rw [h.parent_append.2, makeFirst]
      split
      · next made hok => exact hmade hok
      · split
        · next started e hstarted =>
            rw [hstarted] at hparent
            exact hparent
        · next started hstarted =>
            rw [hstarted] at hparent
            split
            · next made hok => exact (hmade hok).trans hparent
            · exact hparent
      · rfl

/-- The directories above a path are made above its place only. -/
theorem get?_makeDirectories_parent (h : t.Leads path top names)
    (hp : p <+: placeOf path → p = placeOf path) :
    (t.makeDirectories (parent path)).1.get? p = t.get? p := by
  rcases List.eq_nil_or_concat names with rfl | ⟨before, n, rfl⟩
  · have hparent := isDirectory_parent_of_walk h.walk_named
    rw [makeDirectories_of_isDirectory hparent]
  · rw [List.concat_eq_append] at h
    refine h.parent_append.1.get?_makeDirectories fun hprefix => ?_
    have hplace := h.placeOf_append
    have heq := hp (hplace ▸ hprefix.trans (List.prefix_append _ _))
    have hlength := hprefix.length_le
    rw [heq, hplace, List.length_append, List.length_singleton] at hlength
    omega

/-- **A text changes the tree on the way to its place only.** -/
theorem get?_replace (h : t.Leads path top names) (text : String) (hp : ¬ p <+: placeOf path) :
    (t.replace path text).1.get? p = t.get? p := by
  have hmade := h.get?_makeDirectories_parent fun hprefix => absurd hprefix hp
  rw [replace_eq]
  split
  · next started cause hstarted =>
      rw [hstarted] at hmade
      exact hmade
  · next started hstarted =>
      rw [hstarted] at hmade
      split
      · next q htarget =>
          rw [(placeOf_of_target htarget).1]
          refine (get?_put_of_ne started _ ?_).trans hmade
          rintro rfl
          exact hp List.prefix_rfl
      · exact hmade

end Leads

/-! ## What is in the way

Only a file can be in the way of a directory. A tree that has grown by directories and by files
elsewhere has nothing in the way that was not there before. -/

/-- A way down on which there is no directory has a file on it. -/
theorem exists_file_of_walk {t : Tree} {p : Place} {names : List String}
    (h : t.walk p (names.map .into) = .error .notDirectory) :
    ∃ q f, q <+: p ++ names ∧ t.get? q = some (.file f) := by
  induction names generalizing p with
  | nil => cases h
  | cons n names ih =>
      rw [List.map_cons, walk_cons] at h
      split at h
      · obtain ⟨q, f, hq, hf⟩ := ih h
        rw [Step.from, List.append_assoc, List.singleton_append] at hq
        exact ⟨q, f, hq, hf⟩
      · next f hf => exact ⟨p, f, List.prefix_append _ _, hf⟩
      · cases h

section

variable {t t' : Tree} {path : String} {top : Place} {names : List String} {e : FileError}

/-- **What is in the way of a directory is a file**, at its place or above it. -/
theorem Blocked.exists_file (h : t.Leads path top names) (hblocked : Blocked t path e) :
    ∃ q f, q <+: placeOf path ∧ t.get? q = some (.file f) := by
  cases hblocked with
  | onTheWay hwalk =>
      rw [h.walk_named] at hwalk
      rw [h.placeOf_eq]
      exact exists_file_of_walk hwalk
  | @there q f hwalk hf => exact ⟨q, f, walk_eq_follow hwalk ▸ List.prefix_rfl, hf⟩

/-- No file is above a directory. -/
theorem WellFormed.get?_of_above (hw : t.WellFormed) {p q : Place}
    (hp : t.get? p = some .directory) (hq : q <+: p) : t.get? q = some .directory := by
  obtain ⟨rest, rfl⟩ := hq
  cases rest with
  | nil => rwa [List.append_nil] at hp
  | cons n rest => exact hw.above (List.cons_ne_nil n rest) (by rw [hp]; simp)

/-- A directory that can be made can be made when nothing on the way to it has become a file. -/
theorem Leads.makeDirectories_beside {written : Place → Prop} {made : Tree} (hw : t.WellFormed)
    (h : t.Leads path top names) (hext : t.Extends written t')
    (hfile : ∀ p, p <+: placeOf path → t'.fileAt? p = t.fileAt? p)
    (hmade : t.makeDirectories path = (made, none)) :
    ∃ made', t'.makeDirectories path = (made', none) := by
  rcases (h.of_extends hext).makeDirectories (hext.wellFormed hw) with hok | ⟨e, hblocked⟩
  · exact hok
  · -- the file in the way would have been there before
    obtain ⟨q, f, hq, hf⟩ := hblocked.exists_file (h.of_extends hext)
    have hf' : t.get? q = some (.file f) := by
      rw [← fileAt?_eq_some, ← hfile q hq, fileAt?_eq_some, hf]
    have hmadeExt := extends_makeDirectories t path
    rw [hmade] at hmadeExt
    obtain ⟨f', hf''⟩ := hmadeExt.file hf'
    have hdir := (walk_named_of_isDirectory (isDirectory_of_makeDirectories hmade)).2
    rw [(hmadeExt.wellFormed hw).get?_of_above hdir hq] at hf''
    cases hf''

/-- The directories above a text can be made when nothing on the way to it has become a file. -/
theorem Leads.makeDirectories_parent_beside {written : Place → Prop} {made : Tree}
    (hw : t.WellFormed) (h : t.Leads path top names) (hext : t.Extends written t')
    (hfile : ∀ p, p <+: placeOf path → t'.fileAt? p = t.fileAt? p)
    (hmade : t.makeDirectories (parent path) = (made, none)) :
    ∃ made', t'.makeDirectories (parent path) = (made', none) := by
  rcases List.eq_nil_or_concat names with rfl | ⟨before, n, rfl⟩
  · have hparent := isDirectory_parent_of_walk h.walk_named
    exact ⟨t', makeDirectories_of_isDirectory (hext.isDirectory hparent)⟩
  · rw [List.concat_eq_append] at h
    refine h.parent_append.1.makeDirectories_beside hw hext (fun p hp => hfile p ?_) hmade
    rw [h.placeOf_append]
    exact hp.trans (List.prefix_append _ _)

/-! ## Writing a text

So a text is written in the grown tree if and only if it is written in the other one, and what keeps
it from being written is the same. -/

/-- At the end of a way that can be gone, what is there decides whether a file can be put. -/
theorem target_beside {p : Place} (hwalk : t.walk [] (named path) = .ok p)
    (hwalk' : t'.walk [] (named path) = .ok p) (hp : t'.get? p = t.get? p) :
    t'.target path = t.target path := by
  unfold target
  split
  · simp only [hwalk, hwalk', bind, Except.bind, hp]
  · obtain ⟨rest, hrest⟩ := List.dropLast_prefix (named path)
    rw [← hrest] at hwalk hwalk'
    rw [(walk_of_append hwalk).1, (walk_of_append hwalk').1]

/-- **A text can be written as before in a tree that has grown elsewhere**, and what keeps it from
being written is the same: nothing on the way to it has become a file, and its place no directory. -/
theorem Leads.replace_beside {written : Place → Prop} (hw : t.WellFormed)
    (h : t.Leads path top names) (hext : t.Extends written t')
    (hfile : ∀ p, p <+: placeOf path → t'.fileAt? p = t.fileAt? p)
    (hplace : t'.get? (placeOf path) = t.get? (placeOf path)) (text : String) :
    (t'.replace path text).2 = (t.replace path text).2 := by
  have h' := h.of_extends hext
  -- the directories can be made in both trees or in neither
  rcases h.makeDirectories_parent hw with ⟨made, hmade⟩ | ⟨e, hblocked⟩
  · obtain ⟨made', hmade'⟩ := h.makeDirectories_parent_beside hw hext hfile hmade
    have hthere := h.get?_makeDirectories_parent fun _ => rfl
    have hthere' := h'.get?_makeDirectories_parent fun _ => rfl
    have hmadeExt := extends_makeDirectories t (parent path)
    have hmadeExt' := extends_makeDirectories t' (parent path)
    rw [hmade] at hthere hmadeExt
    rw [hmade'] at hthere' hmadeExt'
    have hwalk := (h.of_extends hmadeExt).walk_of_isDirectory_parent
      (isDirectory_of_makeDirectories hmade)
    have hwalk' := (h'.of_extends hmadeExt').walk_of_isDirectory_parent
      (isDirectory_of_makeDirectories hmade')
    have htarget := target_beside hwalk hwalk' (hthere'.trans (hplace.trans hthere.symm))
    rw [replace_eq, replace_eq, hmade, hmade']
    simp only [htarget]
    cases made.target path with
    | ok p => rfl
    | error e => rfl
  · rw [replace_eq, replace_eq, hblocked.makeDirectories,
      (hblocked.of_extends hext).makeDirectories]

end

end DocCatalog.Tree
