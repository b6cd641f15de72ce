import DocCatalog.Proofs.Files.Extension
import DocCatalog.Proofs.Files.Pieces

/-!
# Paths that lead straight down

What such a path leads to depends on the files of the tree only, and not on the directories: those on
the way to a file are there with it.

* **`Tree.Leads`**: a path to a directory and from there down by names.
* **`leads_join_tidy`**: a tidy path that does not lead up leads straight down from the root.
* **`Leads.readText_eq_ok`**, **`Leads.readText_extends`**: what is read at its end.
-/

namespace DocCatalog.Tree

open DocCatalog.Path

/-- In `t` the path leads to the directory `top`, and down from there by `names`. -/
def Leads (t : Tree) (path : String) (top : Place) (names : List String) : Prop :=
  ∃ high, pieces path = high ++ names ∧ t.walk [] (high.filterMap Step.ofPiece?) = .ok top
    ∧ t.get? top = some .directory ∧ ∀ n ∈ names, Step.ofPiece? n = some (.into n)

/-- Whoever takes no step but on the spot stays there. -/
theorem walk_here {t : Tree} {p : Place} (hp : t.get? p = some .directory) {steps : List Step}
    (h : steps ⊆ [.here]) : t.walk p steps = .ok p := by
  induction steps with
  | nil => rfl
  | cons step steps ih =>
      have hstep : step = .here := List.mem_singleton.mp (h List.mem_cons_self)
      rw [walk_cons_of_directory hp, hstep]
      exact ih fun s hs => h (List.mem_cons_of_mem _ hs)

/-- The way down to what is in a well-formed tree can be gone. -/
theorem WellFormed.walk_map_into {t : Tree} (hw : t.WellFormed) {p : Place} {names : List String}
    (h : t.get? (p ++ names) ≠ none) : t.walk p (names.map .into) = .ok (p ++ names) := by
  induction names generalizing p with
  | nil => simp
  | cons n ns ih =>
      have hp : t.get? p = some .directory := hw.above (by simp) h
      have hsplit : p ++ n :: ns = (p ++ [n]) ++ ns := by simp
      rw [List.map_cons, walk_cons_of_directory hp, hsplit]
      rw [hsplit] at h
      exact ih h

/-- Names are steps down. -/
theorem filterMap_ofPiece? {names : List String}
    (h : ∀ n ∈ names, Step.ofPiece? n = some (.into n)) :
    names.filterMap Step.ofPiece? = names.map .into := by
  induction names with
  | nil => rfl
  | cons n ns ih =>
      rw [List.filterMap_cons_some (h n List.mem_cons_self),
        ih fun m hm => h m (List.mem_cons_of_mem _ hm), List.map_cons]

/-! ## The path above

Idle pieces lead nowhere, so that the path above leads to the directory that the last name is in. -/

/-- Idle pieces are steps that stay. -/
theorem filterMap_idle {idles : List String} (h : ∀ p ∈ idles, isIdle p = true) :
    idles.filterMap Step.ofPiece? ⊆ [.here] := by
  intro step hstep
  obtain ⟨p, hp, hof⟩ := List.mem_filterMap.mp hstep
  rcases Bool.or_eq_true_iff.mp (h p hp) with hempty | hdot
  · rw [eq_of_beq hempty] at hof
    cases hof
  · rw [eq_of_beq hdot] at hof
    cases hof
    exact List.mem_singleton.mpr rfl

theorem follow_here {p : Place} {steps : List Step} (h : steps ⊆ [.here]) : follow p steps = p := by
  induction steps with
  | nil => rfl
  | cons step steps ih =>
      rw [follow_cons, List.mem_singleton.mp (h List.mem_cons_self)]
      exact ih fun s hs => h (List.mem_cons_of_mem _ hs)

/-- The way to the path above is the one in front of the last piece that leads somewhere. -/
theorem walk_parent {t : Tree} {path n : String} {front idles : List String} {p : Place}
    (h : pieces path = front ++ n :: idles) (hn : isIdle n = false)
    (hidles : ∀ q ∈ idles, isIdle q = true)
    (hwalk : t.walk [] (front.filterMap Step.ofPiece?) = .ok p) :
    t.walk [] (named (parent path)) = .ok p := by
  -- the path above has the pieces `low`; those in `rest` lead nowhere
  obtain ⟨-, low, rest, rfl, hrest, hparent⟩ := parent_of_pieces h hn hidles
  have hnamed : named (parent path) = low.filterMap Step.ofPiece? := by
    rw [named, hparent]
    split
    · next hempty =>
        rw [List.isEmpty_iff.mp hempty]
        decide
    · rfl
  rw [List.filterMap_append] at hwalk
  obtain ⟨hlow, htail⟩ := walk_of_append hwalk
  rw [hnamed, hlow, walk_eq_follow htail, follow_here (filterMap_idle hrest)]

/-- A path of which the way can be gone lies in a directory. -/
theorem isDirectory_parent_of_walk {t : Tree} {path : String} {p : Place}
    (h : t.walk [] (named path) = .ok p) : t.isDirectory (parent path) = true := by
  rcases idle_or_last (pieces path) with hidle | ⟨front, n, idles, hpieces, hn, hidles⟩
  · -- no piece leads anywhere, and the path above is the top
    have habove : above (pieces path).reverse = [] := by
      have happend := above_append (fun p hp => hidle p (List.mem_reverse.mp hp)) []
      rwa [List.append_nil] at happend
    have hparent : parent path = "/" := by
      rw [parent, ancestors, habove]
      rfl
    have htop : t.walk [] (named "/") = .ok [] := by
      have hnamed : named "/" = [] := by decide
      rw [hnamed, walk_nil]
    rw [hparent]
    exact isDirectory_of_walk_named htop (get?_nil t)
  · obtain ⟨step, hstep⟩ := exists_step hn
    rw [named, hpieces, List.filterMap_append, List.filterMap_cons_some hstep] at h
    obtain ⟨hfront, hrest⟩ := walk_of_append h
    exact isDirectory_of_walk_named (walk_parent hpieces hn hidles hfront)
      (directory_of_walk_cons hrest).1

/-! ## Leading straight down

A path leads down by names from a directory that it reaches first. When the tree grows it still
does. -/

/-- A tidy path that does not lead up leads straight down from the root, or from the top. -/
theorem leads_join_tidy {t : Tree} {root path : String} (hroot : t.isDirectory root = true)
    (hup : ".." ∉ components path) : ∃ top, t.Leads (join root (tidy path)) top (names path) := by
  obtain ⟨habsolute, lead, hpieces, hlead⟩ := pieces_tidy path
  have hnames : ∀ n ∈ names path, Step.ofPiece? n = some (.into n) :=
    fun n hn => ofPiece?_of_mem_names hup hn
  cases hb : isAbsolute (tidy path) with
  | true =>
      have htop : t.get? ([] : Place) = some .directory := get?_nil t
      refine ⟨[], lead, ?_, walk_here htop hlead, htop, hnames⟩
      rw [join, hb, if_pos rfl, hpieces]
  | false =>
      obtain ⟨stem, hjoin, hstem⟩ := pieces_join root hb
      obtain ⟨hwalk, hplace⟩ := walk_named_of_isDirectory hroot
      refine ⟨placeOf root, stem ++ lead, ?_, ?_, hplace, hnames⟩
      · rw [hjoin, hpieces, List.append_assoc]
      · rw [List.filterMap_append, hstem, walk_append hwalk]
        exact walk_here hplace hlead

namespace Leads

variable {t t' : Tree} {path : String} {top : Place} {names : List String}

/-- The way is that of the names, from the directory on. -/
theorem walk_named (h : t.Leads path top names) :
    t.walk [] (named path) = t.walk top (names.map .into) := by
  obtain ⟨high, hpieces, hwalk, -, hnames⟩ := h
  rw [named, hpieces, List.filterMap_append, walk_append hwalk, filterMap_ofPiece? hnames]

theorem placeOf_eq (h : t.Leads path top names) : placeOf path = top ++ names := by
  obtain ⟨high, hpieces, hwalk, -, hnames⟩ := h
  rw [placeOf, named, hpieces, List.filterMap_append, filterMap_ofPiece? hnames, follow_append,
    ← walk_eq_follow hwalk, follow_map_into]

/-- A tree that grows keeps this. -/
theorem of_extends {written : Place → Prop} (h : t.Leads path top names)
    (hext : t.Extends written t') : t'.Leads path top names := by
  obtain ⟨high, hpieces, hwalk, htop, hnames⟩ := h
  exact ⟨high, hpieces, hext.walk hwalk, hext.directory htop, hnames⟩

/-- A path with a name at its end does not end in a slash. -/
theorem endsInSlash_eq_false (h : t.Leads path top names) (hne : names ≠ []) :
    endsInSlash path = false := by
  obtain ⟨high, hpieces, -, -, hnames⟩ := h
  obtain ⟨before, n, rfl⟩ := List.eq_nil_or_concat names |>.resolve_left hne
  rw [List.concat_eq_append] at hpieces hnames
  refine endsInSlash_of_pieces (hpieces.trans (List.append_assoc _ _ _).symm) ?_
  rintro rfl
  have hempty := hnames "" (by simp)
  cases hempty

/-- Straight down there is a text to be read exactly where there is a file with it. -/
theorem readText_eq_ok (h : t.Leads path top names) (hw : t.WellFormed) {text : String} :
    t.readText path = .ok text ↔ ∃ f, t.fileAt? (top ++ names) = some f ∧ f.content = .text text := by
  rw [Tree.readText_eq_ok, h.placeOf_eq]
  constructor
  · rintro ⟨f, -, hf, htext⟩
    exact ⟨f, fileAt?_eq_some.mpr hf, htext⟩
  · rintro ⟨f, hf, htext⟩
    rw [fileAt?_eq_some] at hf
    -- the top is a directory, so there is a name below it, and no slash at the end
    have hne : names ≠ [] := by
      rintro rfl
      obtain ⟨-, -, -, htop, -⟩ := h
      rw [List.append_nil, htop] at hf
      cases hf
    refine ⟨f, ?_, hf, htext⟩
    rw [locate, steps, h.endsInSlash_eq_false hne, if_neg Bool.false_ne_true, List.append_nil,
      h.walk_named, hw.walk_map_into (by rw [hf]; simp)]

/-- **What is read straight down changes only where it is written.** -/
theorem readText_extends {written : Place → Prop} (h : t.Leads path top names) (hw : t.WellFormed)
    (hext : t.Extends written t') (hp : ¬ written (top ++ names)) :
    (t'.readText path).toOption = (t.readText path).toOption := by
  have hiff : ∀ text, t'.readText path = .ok text ↔ t.readText path = .ok text := by
    intro text
    rw [(h.of_extends hext).readText_eq_ok (hext.wellFormed hw), h.readText_eq_ok hw, hext.fileAt hp]
  cases hread : t.readText path with
  | ok text => rw [(hiff text).mpr hread]
  | error e =>
      cases hread' : t'.readText path with
      | error e' => rfl
      | ok text =>
          have := (hiff text).mp hread'
          rw [hread] at this
          cases this

/-- The path above leads straight down to what is above. -/
theorem parent_append {n : String} (h : t.Leads path top (names ++ [n])) :
    t.Leads (parent path) top names ∧ ancestors path = path :: ancestors (parent path) := by
  obtain ⟨high, hpieces, hwalk, htop, hnames⟩ := h
  have hn : isIdle n = false := isIdle_eq_false (hnames n (by simp)) (by simp)
  have hfront : pieces path = (high ++ names) ++ n :: [] := by
    rw [hpieces, List.append_assoc]
  obtain ⟨hancestors, low, rest, hsplit, hrest, hparent⟩ :=
    parent_of_pieces hfront hn fun q hq => (nomatch hq)
  have hnames' : ∀ m ∈ names, Step.ofPiece? m = some (.into m) :=
    fun m hm => hnames m (List.mem_append_left _ hm)
  refine ⟨?_, hancestors⟩
  rcases List.eq_nil_or_concat names with rfl | ⟨before, m, rfl⟩
  · have hwalk' : t.walk [] (named (parent path)) = .ok top := by
      refine walk_parent hfront hn (fun q hq => (nomatch hq)) ?_
      rw [List.append_nil]
      exact hwalk
    rw [named] at hwalk'
    exact ⟨pieces (parent path), (List.append_nil _).symm, hwalk', htop, hnames'⟩
  · refine ⟨high, ?_, hwalk, htop, hnames'⟩
    rw [List.concat_eq_append] at hsplit hnames' ⊢
    -- the piece at the end is a name, so that nothing is left out
    have hm : isIdle m = false := isIdle_eq_false (hnames' m (by simp)) (by simp)
    have hrest' : rest = [] := by
      rcases List.eq_nil_or_concat rest with hnil | ⟨others, q, rfl⟩
      · exact hnil
      · rw [List.concat_eq_append, ← List.append_assoc, ← List.append_assoc] at hsplit
        have hq := hrest q (by simp)
        rw [← List.singleton_inj.mp (List.append_inj' hsplit rfl).2, hm] at hq
        cases hq
    rw [hrest', List.append_nil] at hsplit
    rw [hparent, ← hsplit, if_neg (by simp)]

end Leads

end DocCatalog.Tree
