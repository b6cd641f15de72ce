import DocCatalog.Extract.Discover

/-!
# The order of routes

Routes are totally ordered, so that a list of them that is in order and has none twice is given by
its members.

* **`precedes_total`**, **`precedes_trans`**, **`precedes_antisymm`**: the order.
* **`distinctRoutes_eq`**: the same routes in any order, and any number of times, give the same list.
-/

namespace DocCatalog

namespace Glob.Route

/-! ## One route before another

Routes are compared step by step. Steps down go by their names, and a step up comes before all of
these. -/

/-- Two steps down are compared by their names, and then by what follows. -/
theorem precedes_into {a b : String} {r s : Route} :
    precedes (.into a :: r) (.into b :: s) = true ↔
      compare a b = .lt ∨ a = b ∧ precedes r s = true := by
  rw [precedes]
  cases hcompare : compare a b with
  | lt => simp
  | gt =>
      have hne : a ≠ b := by
        rintro rfl
        rw [Std.ReflOrd.compare_self] at hcompare
        cases hcompare
      simp [hne]
  | eq => simp [Std.LawfulEqOrd.eq_of_compare hcompare]

/-- Of two routes one is before the other, or they are the same. -/
theorem precedes_total (r s : Route) : precedes r s = true ∨ precedes s r = true := by
  induction r generalizing s with
  | nil => exact Or.inl rfl
  | cons turn r ih =>
      cases s with
      | nil => exact Or.inr rfl
      | cons turn' s =>
          -- the first steps decide, unless both lead up or go into the same name
          cases turn with
          | up =>
              cases turn' with
              | up => exact ih s
              | into b => exact Or.inl rfl
          | into a =>
              cases turn' with
              | up => exact Or.inr rfl
              | into b =>
                  rw [precedes_into, precedes_into]
                  cases hcompare : compare a b with
                  | lt => exact Or.inl (Or.inl rfl)
                  | gt => exact Or.inr (Or.inl (Std.OrientedCmp.lt_of_gt hcompare))
                  | eq =>
                      have hab := Std.LawfulEqOrd.eq_of_compare hcompare
                      rcases ih s with hr | hs
                      · exact Or.inl (Or.inr ⟨hab, hr⟩)
                      · exact Or.inr (Or.inr ⟨hab.symm, hs⟩)

theorem precedes_trans {r s u : Route} (hrs : precedes r s = true) (hsu : precedes s u = true) :
    precedes r u = true := by
  -- turns are compared in step: `up` stands before all names, and equal turns leave it to the rest
  induction r generalizing s u with
  | nil => rfl
  | cons turn r ih =>
      cases s with
      | nil => cases hrs
      | cons turn' s =>
          cases u with
          | nil => cases hsu
          | cons turn'' u =>
              cases turn with
              | up =>
                  cases turn'' with
                  | into c => rfl
                  | up =>
                      cases turn' with
                      | up => exact ih (s := s) (u := u) hrs hsu
                      | into b => cases hsu
              | into a =>
                  cases turn' with
                  | up => cases hrs
                  | into b =>
                      cases turn'' with
                      | up => cases hsu
                      | into c =>
                          rw [precedes_into] at hrs hsu ⊢
                          rcases hrs with hab | ⟨rfl, hrs⟩
                          · rcases hsu with hbc | ⟨rfl, -⟩
                            · exact Or.inl (Std.TransCmp.lt_trans hab hbc)
                            · exact Or.inl hab
                          · rcases hsu with hbc | ⟨rfl, hsu⟩
                            · exact Or.inl hbc
                            · exact Or.inr ⟨rfl, ih hrs hsu⟩

/-- Routes that are before each other are the same. -/
theorem precedes_antisymm {r s : Route} (hrs : precedes r s = true)
    (hsr : precedes s r = true) : r = s := by
  induction r generalizing s with
  | nil =>
      cases s with
      | nil => rfl
      | cons turn s => cases hsr
  | cons turn r ih =>
      cases s with
      | nil => cases hrs
      | cons turn' s =>
          cases turn with
          | up =>
              cases turn' with
              | up => rw [ih (s := s) hrs hsr]
              | into b => cases hsr
          | into a =>
              cases turn' with
              | up => cases hrs
              | into b =>
                  rw [precedes_into] at hrs hsr
                  -- two different names cannot each come before the other
                  rcases hrs with hab | ⟨rfl, hrs⟩
                  · rcases hsr with hba | ⟨rfl, -⟩
                    · rw [Std.OrientedOrd.eq_swap (a := b), hab] at hba
                      cases hba
                    · rw [Std.ReflOrd.compare_self] at hab
                      cases hab
                  · rcases hsr with haa | ⟨-, hsr⟩
                    · rw [Std.ReflOrd.compare_self] at haa
                      cases haa
                    · rw [ih hrs hsr]

end Glob.Route

/-! ## Lists in order

Sorting puts equal routes next to each other, and so leaving out repetitions leaves none twice. A
list in strict order is determined by its members. -/

section EraseReps

variable {α : Type} [BEq α]

/-- What has been kept already stands in front. -/
theorem eraseReps_loop (a : α) (l acc : List α) :
    List.eraseRepsBy.loop (· == ·) a l acc
      = acc.reverse ++ List.eraseRepsBy.loop (· == ·) a l [] := by
  induction l generalizing a acc with
  | nil => simp [List.eraseRepsBy.loop]
  | cons b l ih =>
      unfold List.eraseRepsBy.loop
      cases hab : a == b with
      | true => exact ih a acc
      | false =>
          simp only
          rw [ih b (a :: acc), ih b [a]]
          simp

/-- An element is left out if the next one is equal to it. -/
theorem eraseReps_cons_cons (a b : α) (l : List α) :
    (a :: b :: l).eraseReps
      = if a == b then (a :: l).eraseReps else a :: (b :: l).eraseReps := by
  unfold List.eraseReps List.eraseRepsBy
  simp only
  rw [List.eraseRepsBy.loop]
  cases hab : a == b with
  | true => rfl
  | false =>
      simp only
      rw [eraseReps_loop]
      rfl

variable [LawfulBEq α]

theorem mem_eraseReps_cons {x a : α} {l : List α} : x ∈ (a :: l).eraseReps ↔ x ∈ a :: l := by
  induction l generalizing a with
  | nil => rfl
  | cons b l ih =>
      rw [eraseReps_cons_cons]
      split
      · next hab =>
          rw [ih, eq_of_beq hab]
          simp
      · simp only [List.mem_cons, ih]

theorem mem_eraseReps {x : α} {l : List α} : x ∈ l.eraseReps ↔ x ∈ l := by
  cases l with
  | nil => rfl
  | cons a l => exact mem_eraseReps_cons

/-- A list in order has nothing twice when repetitions are taken out. -/
theorem pairwise_eraseReps_cons {le : α → α → Prop} (hantisymm : ∀ a b, le a b → le b a → a = b)
    {a : α} {l : List α} (h : (a :: l).Pairwise le) :
    (a :: l).eraseReps.Pairwise fun x y => le x y ∧ x ≠ y := by
  induction l generalizing a with
  | nil => exact List.pairwise_singleton _ _
  | cons b l ih =>
      obtain ⟨ha, htail⟩ := List.pairwise_cons.mp h
      obtain ⟨hb, hl⟩ := List.pairwise_cons.mp htail
      rw [eraseReps_cons_cons]
      split
      · exact ih (List.pairwise_cons.mpr ⟨fun y hy => ha y (List.mem_cons_of_mem _ hy), hl⟩)
      · next hab =>
          refine List.pairwise_cons.mpr ⟨fun y hy => ?_, ih htail⟩
          have hmem := mem_eraseReps_cons.mp hy
          refine ⟨ha y hmem, ?_⟩
          rintro rfl
          -- what comes again comes behind `b`, and so is `b`
          rcases List.mem_cons.mp hmem with rfl | hrest
          · exact hab (beq_self_eq_true _)
          · have heq := hantisymm _ _ (ha b List.mem_cons_self) (hb _ hrest)
            exact hab (by rw [heq]; exact beq_self_eq_true b)

/-- In a list that is in order no value is left twice. -/
theorem pairwise_eraseReps {le : α → α → Prop} (hantisymm : ∀ a b, le a b → le b a → a = b)
    {l : List α} (h : l.Pairwise le) : l.eraseReps.Pairwise fun x y => le x y ∧ x ≠ y := by
  cases l with
  | nil => exact List.Pairwise.nil
  | cons a l => exact pairwise_eraseReps_cons hantisymm h

end EraseReps

namespace Extract

open Glob

theorem mem_distinctRoutes {r : Route} {routes : List Route} :
    r ∈ distinctRoutes routes ↔ r ∈ routes := by
  rw [distinctRoutes, mem_eraseReps, List.mem_mergeSort]

/-- **The routes are in order**, and none comes twice. -/
theorem pairwise_distinctRoutes (routes : List Route) :
    (distinctRoutes routes).Pairwise fun r s => Route.precedes r s = true ∧ r ≠ s := by
  refine pairwise_eraseReps (fun r s => Route.precedes_antisymm) ?_
  have htotal : ∀ r s, (Route.precedes r s || Route.precedes s r) = true := by
    intro r s
    rw [Bool.or_eq_true]
    exact Route.precedes_total r s
  exact @List.pairwise_mergeSort _ Route.precedes (fun r s u => Route.precedes_trans) htotal routes

/-- **The same routes give the same list**, in whatever order and however often they are found. -/
theorem distinctRoutes_eq {a b : List Route} (h : ∀ r, r ∈ a ↔ r ∈ b) :
    distinctRoutes a = distinctRoutes b := by
  have ha := pairwise_distinctRoutes a
  have hb := pairwise_distinctRoutes b
  have hperm : (distinctRoutes a).Perm (distinctRoutes b) := by
    refine (List.perm_ext_iff_of_nodup (ha.imp And.right) (hb.imp And.right)).mpr fun r => ?_
    rw [mem_distinctRoutes, mem_distinctRoutes, h r]
  exact hperm.eq_of_pairwise (fun r s _ _ hrs hsr => Route.precedes_antisymm hrs hsr)
    (ha.imp And.left) (hb.imp And.left)

end Extract

end DocCatalog
