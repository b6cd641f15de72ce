import DocCatalog.Files.Access

/-!
# Ways through trees

What a way leads to does not depend on the tree; whether it can be gone does.

* **`Path.follow`**, **`Path.placeOf`**: the place that a way and a path name in every tree.
* **`Tree.walk_eq_follow`**: a way that can be gone leads there.
* **`Tree.WellFormed`**: what is in a tree lies in directories, and at one place there is one thing.
-/

namespace DocCatalog

namespace Path

/-- Where a way leads from a place, whatever is there. -/
def follow (place : Place) (steps : List Step) : Place := steps.foldl Step.from place

/-- The place that a path names. -/
def placeOf (path : String) : Place := follow [] (named path)

@[simp] theorem follow_nil (place : Place) : follow place [] = place := rfl

@[simp] theorem follow_cons (place : Place) (step : Step) (steps : List Step) :
    follow place (step :: steps) = follow (step.from place) steps := rfl

theorem follow_append (place : Place) (a b : List Step) :
    follow place (a ++ b) = follow (follow place a) b := by
  simp [follow]

/-- A way down names what lies below. -/
@[simp] theorem follow_map_into (place : Place) (names : List String) :
    follow place (names.map .into) = place ++ names := by
  induction names generalizing place with
  | nil => simp
  | cons n ns ih =>
      rw [List.map_cons, follow_cons, Step.from, ih, List.append_assoc, List.singleton_append]

/-- The names at a place that a way leads to are names on the way, or those of where it began. -/
theorem mem_follow {place : Place} {steps : List Step} {n : String}
    (h : n ∈ follow place steps) : n ∈ place ∨ .into n ∈ steps := by
  induction steps generalizing place with
  | nil => exact Or.inl h
  | cons step steps ih =>
      rcases ih h with hfrom | hrest
      · cases step with
        | into m =>
            rcases List.mem_append.mp hfrom with hplace | hm
            · exact Or.inl hplace
            · rw [List.mem_singleton.mp hm]
              exact Or.inr List.mem_cons_self
        | up => exact Or.inl (List.dropLast_subset _ hfrom)
        | here => exact Or.inl hfrom
      · exact Or.inr (List.mem_cons_of_mem _ hrest)

end Path

namespace Tree

open DocCatalog.Path

/-! ## Going a way

One step is taken at a time, from a directory. -/

@[simp] theorem walk_nil (t : Tree) (p : Place) : t.walk p [] = .ok p := rfl

theorem walk_cons (t : Tree) (p : Place) (step : Step) (steps : List Step) :
    t.walk p (step :: steps) =
      match t.get? p with
      | some .directory => t.walk (step.from p) steps
      | some (.file _) => .error .notDirectory
      | none => .error .notFound := rfl

/-- From a directory the way goes on. -/
theorem walk_cons_of_directory {t : Tree} {p : Place} (h : t.get? p = some .directory)
    (step : Step) (steps : List Step) :
    t.walk p (step :: steps) = t.walk (step.from p) steps := by
  rw [walk_cons, h]

/-- A way that can be gone begins in a directory, unless it has no step. -/
theorem directory_of_walk_cons {t : Tree} {p q : Place} {step : Step} {steps : List Step}
    (h : t.walk p (step :: steps) = .ok q) :
    t.get? p = some .directory ∧ t.walk (step.from p) steps = .ok q := by
  rw [walk_cons] at h
  split at h
  · next hp => exact ⟨hp, h⟩
  · cases h
  · cases h

/-- A way in two parts is gone one after the other. -/
theorem walk_append {t : Tree} {p q : Place} {a : List Step} (h : t.walk p a = .ok q)
    (b : List Step) : t.walk p (a ++ b) = t.walk q b := by
  induction a generalizing p with
  | nil =>
      cases h
      rfl
  | cons step steps ih =>
      obtain ⟨hp, hrest⟩ := directory_of_walk_cons h
      rw [List.cons_append, walk_cons_of_directory hp, ih hrest]

/-- Conversely both parts of a way that can be gone can be. -/
theorem walk_of_append {t : Tree} {p q : Place} {a b : List Step}
    (h : t.walk p (a ++ b) = .ok q) : t.walk p a = .ok (follow p a) ∧ t.walk (follow p a) b = .ok q := by
  induction a generalizing p with
  | nil => exact ⟨rfl, h⟩
  | cons step steps ih =>
      obtain ⟨hp, hrest⟩ := directory_of_walk_cons h
      rw [walk_cons_of_directory hp, follow_cons]
      exact ih hrest

/-- **A way that can be gone leads to the place that it names.** -/
theorem walk_eq_follow {t : Tree} {p q : Place} {steps : List Step}
    (h : t.walk p steps = .ok q) : q = follow p steps := by
  have hall := (walk_of_append (b := []) (by rwa [List.append_nil])).1
  rw [h] at hall
  exact Except.ok.inj hall

/-- Trees that agree on all places of the given names agree on ways by these names. -/
theorem walk_congr {t t' : Tree} {taken : List String} {p : Place} {steps : List Step}
    (hplace : ∀ n ∈ p, n ∈ taken) (hsteps : ∀ n, .into n ∈ steps → n ∈ taken)
    (hsame : ∀ q : Place, (∀ n ∈ q, n ∈ taken) → t'.get? q = t.get? q) :
    t'.walk p steps = t.walk p steps := by
  induction steps generalizing p with
  | nil => rfl
  | cons step steps ih =>
      rw [walk_cons, walk_cons, hsame p hplace]
      have hfrom : ∀ n ∈ step.from p, n ∈ taken := by
        intro n hn
        have hfollow : n ∈ follow p [step] := hn
        rcases mem_follow hfollow with hp | hstep
        · exact hplace n hp
        · exact hsteps n (List.mem_singleton.mp hstep ▸ List.mem_cons_self)
      rw [ih hfrom fun n hn => hsteps n (List.mem_cons_of_mem _ hn)]

/-! ## Paths to directories and files

A path is looked up step by step. What it leads to is a matter of the place that is reached. -/

/-- A path is one to a directory if it can be gone to one. -/
theorem isDirectory_iff {t : Tree} {path : String} :
    t.isDirectory path = true ↔
      ∃ p, t.locate path = .ok p ∧ t.get? p = some .directory := by
  unfold isDirectory entryAt
  cases hl : t.locate path with
  | error e => simp [bind, Except.bind]
  | ok p =>
      cases hp : t.get? p with
      | none => simp [bind, Except.bind, hp]
      | some e => cases e <;> simp [bind, Except.bind, hp]

/-- The way to a directory can be gone by its names, and ends there. -/
theorem walk_named_of_isDirectory {t : Tree} {path : String} (h : t.isDirectory path = true) :
    t.walk [] (named path) = .ok (placeOf path) ∧ t.get? (placeOf path) = some .directory := by
  obtain ⟨p, hl, hp⟩ := isDirectory_iff.mp h
  unfold locate steps at hl
  obtain ⟨hnamed, hrest⟩ := walk_of_append hl
  refine ⟨hnamed, ?_⟩
  split at hrest
  · exact (directory_of_walk_cons hrest).1
  · rw [placeOf, Except.ok.inj hrest]
    exact hp

theorem isDirectory_of_walk_named {t : Tree} {path : String} {p : Place}
    (h : t.walk [] (named path) = .ok p) (hp : t.get? p = some .directory) :
    t.isDirectory path = true := by
  refine isDirectory_iff.mpr ⟨p, ?_, hp⟩
  rw [locate, steps, walk_append h]
  split
  · rw [walk_cons_of_directory hp]
    rfl
  · rfl

theorem fileAt?_eq_some {t : Tree} {p : Place} {f : File} :
    t.fileAt? p = some f ↔ t.get? p = some (.file f) := by
  unfold fileAt?
  split
  · next g hg => rw [hg]; simp
  · next hne =>
      constructor
      · intro h
        cases h
      · intro h
        exact absurd h (hne f)

theorem fileAt?_of_directory {t : Tree} {p : Place} (h : t.get? p = some .directory) :
    t.fileAt? p = none := by
  rw [fileAt?, h]

theorem fileAt?_of_none {t : Tree} {p : Place} (h : t.get? p = none) : t.fileAt? p = none := by
  rw [fileAt?, h]

/-- A text is read from a file at the place that the path names, on a way that can be gone. -/
theorem readText_eq_ok {t : Tree} {path text : String} :
    t.readText path = .ok text ↔
      ∃ f, t.locate path = .ok (placeOf path) ∧ t.get? (placeOf path) = some (.file f)
        ∧ f.content = .text text := by
  unfold readText entryAt
  constructor
  · intro h
    -- every way out but that of a text in a file is an error
    cases hl : t.locate path with
    | error e => simp [hl, bind, Except.bind] at h
    | ok p =>
        have hplace : p = placeOf path := by
          rw [walk_eq_follow hl, steps, follow_append, placeOf]
          split <;> rfl
        subst hplace
        cases hp : t.get? (placeOf path) with
        | none => simp [hl, hp, bind, Except.bind] at h
        | some e =>
            cases e with
            | directory => simp [hl, hp, bind, Except.bind] at h
            | file f =>
                obtain ⟨content, mode⟩ := f
                cases content with
                | bytes b => simp [hl, hp, bind, Except.bind, Content.readText] at h
                | text s =>
                    simp only [hl, hp, bind, Except.bind, Content.readText, Except.ok.injEq] at h
                    exact ⟨_, rfl, rfl, by rw [h]⟩
  · rintro ⟨f, hl, hp, hf⟩
    simp [hl, hp, hf, bind, Except.bind, Content.readText]

/-! ## Well-formed trees

A tree is a list of entries, so it could have two of them at one place, or a file that lies in no
directory. A well-formed one has neither, and this can be checked. -/

/-- A tree as a file system has it: at one place there is one thing, and it lies in a directory. -/
structure WellFormed (t : Tree) : Prop where
  distinct : (t.entries.map Prod.fst).Nodup
  parent : ∀ {p : Place} {n : String}, t.get? (p ++ [n]) ≠ none → t.get? p = some .directory

/-- Something is at a place, other than the root, if there is an entry for it. -/
theorem get?_ne_none {t : Tree} {p : Place} (hne : p ≠ []) :
    t.get? p ≠ none ↔ ∃ e ∈ t.entries, e.1 = p := by
  rw [get?, if_neg (by simpa using hne), ne_eq, List.lookup_eq_none_iff]
  constructor
  · intro h
    refine Classical.byContradiction fun hno => h fun e he => ?_
    exact bne_iff_ne.mpr fun hp => hno ⟨e, he, hp.symm⟩
  · rintro ⟨e, he, rfl⟩ h
    exact bne_iff_ne.mp (h e he) rfl

/-- What is among the entries of a well-formed tree is at its place. -/
theorem WellFormed.get?_of_mem {t : Tree} (hw : t.WellFormed) {p : Place} {e : Entry}
    (hne : p ≠ []) (h : (p, e) ∈ t.entries) : t.get? p = some e := by
  -- nothing in front of the entry has its place
  obtain ⟨before, after, hentries⟩ := List.append_of_mem h
  have hdistinct := hw.distinct
  rw [hentries, List.map_append, List.map_cons] at hdistinct
  rw [get?, if_neg (by simpa using hne), List.lookup_eq_some_iff]
  refine ⟨before, after, hentries, fun e' he' => bne_iff_ne.mpr ?_⟩
  rintro rfl
  have hbefore := (List.nodup_append.mp hdistinct).2.2
  exact hbefore e'.1 (List.mem_map_of_mem he') e'.1 List.mem_cons_self rfl

/-- It is enough to look at the entries of a tree. -/
theorem wellFormed_iff {t : Tree} :
    t.WellFormed ↔ (t.entries.map Prod.fst).Nodup
      ∧ ∀ e ∈ t.entries, t.get? e.1.dropLast = some .directory := by
  constructor
  · rintro ⟨hdistinct, hparent⟩
    refine ⟨hdistinct, fun e he => ?_⟩
    rcases List.eq_nil_or_concat e.1 with hnil | ⟨p, n, hp⟩
    · rw [hnil]
      rfl
    · rw [List.concat_eq_append] at hp
      rw [hp, List.dropLast_concat]
      exact hparent ((get?_ne_none (by simp)).mpr ⟨e, he, hp⟩)
  · rintro ⟨hdistinct, hparent⟩
    refine ⟨hdistinct, fun {p n} h => ?_⟩
    obtain ⟨e, he, hp⟩ := (get?_ne_none (by simp)).mp h
    have hdir := hparent e he
    rwa [hp, List.dropLast_concat] at hdir

instance (t : Tree) : Decidable t.WellFormed := decidable_of_iff' _ wellFormed_iff

/-- Everything above what is in a well-formed tree is a directory. -/
theorem WellFormed.above {t : Tree} (hw : t.WellFormed) {p : Place} {names : List String}
    (hne : names ≠ []) (h : t.get? (p ++ names) ≠ none) : t.get? p = some .directory := by
  induction names generalizing p with
  | nil => exact absurd rfl hne
  | cons n ns ih =>
      apply hw.parent (n := n)
      cases ns with
      | nil => exact h
      | cons m ms =>
          rw [ih (p := p ++ [n]) (by simp) (by simpa using h)]
          simp

/-- What a way leads to in a well-formed tree is the top or lies in a directory. -/
theorem WellFormed.parent_of_walk {t : Tree} (hw : t.WellFormed) {p q : Place} {steps : List Step}
    (hp : p = [] ∨ ∃ r n, p = r ++ [n] ∧ t.get? r = some .directory)
    (h : t.walk p steps = .ok q) :
    q = [] ∨ ∃ r n, q = r ++ [n] ∧ t.get? r = some .directory := by
  -- along the way: what holds where a step begins holds where it ends
  induction steps generalizing p with
  | nil => exact Except.ok.inj h ▸ hp
  | cons step steps ih =>
      obtain ⟨hdir, hrest⟩ := directory_of_walk_cons h
      refine ih ?_ hrest
      cases step with
      | into n => exact Or.inr ⟨p, n, rfl, hdir⟩
      | here => exact hp
      | up =>
          rcases hp with rfl | ⟨r, n, rfl, hr⟩
          · exact Or.inl rfl
          · rw [Step.from, List.dropLast_concat]
            rcases List.eq_nil_or_concat r with rfl | ⟨r', m, rfl⟩
            · exact Or.inl rfl
            · rw [List.concat_eq_append] at hr ⊢
              exact Or.inr ⟨r', m, rfl, hw.parent (by rw [hr]; simp)⟩

/-- Something can be put where a way leads, unless that is the top: the directory is there. -/
theorem WellFormed.put {t : Tree} (hw : t.WellFormed) {p : Place} {n : String}
    (hp : t.get? p = some .directory) {e : Entry}
    (he : t.get? (p ++ [n]) = some .directory → e = .directory) :
    (t.put (p ++ [n]) e).WellFormed := by
  refine ⟨?_, ?_⟩
  · have hmem : p ++ [n] ∉ (t.entries.filter (·.1 != p ++ [n])).map Prod.fst := by
      intro hmem
      obtain ⟨x, hx, hplace⟩ := List.mem_map.mp hmem
      simpa [hplace] using (List.mem_filter.mp hx).2
    have hrest : ((t.entries.filter (·.1 != p ++ [n])).map Prod.fst).Nodup :=
      hw.distinct.sublist (List.filter_sublist.map _)
    exact List.nodup_cons.mpr ⟨hmem, hrest⟩
  · intro q m hq
    by_cases hself : q = p ++ [n]
    · -- what is put has something below it only where a directory was
      have hbelow : t.get? (q ++ [m]) ≠ none := by
        rwa [get?_put_of_ne t _ (by rw [hself]; simp)] at hq
      have hdir := hw.parent hbelow
      rw [hself] at hdir ⊢
      rw [get?_put_self t _ _ (by simp), he hdir]
    · rw [get?_put_of_ne t _ hself]
      by_cases hplace : q ++ [m] = p ++ [n]
      · rw [(List.append_inj' hplace rfl).1]
        exact hp
      · rw [get?_put_of_ne t _ hplace] at hq
        exact hw.parent hq

end Tree

end DocCatalog
