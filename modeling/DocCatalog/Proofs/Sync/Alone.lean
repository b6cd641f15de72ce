import DocCatalog.Proofs.Files.Beside
import DocCatalog.Proofs.Sync.Separation

/-!
# A kind by itself

In a run that writes, the kinds before a kind leave files and directories of their own. Where none of
these is in the way of its module, the kind does what it would do as the only one, so that what it does
can be told from the tree that the run begins with.

* **`Clear`**, **`Undisturbed`**: modules of which none is in the way of another.
* **`alone`**: what is said of a kind that is synchronized as the only one.
* **`get?_before`**, **`replace_before`**: what the kinds before it do to a kind.
* **`stage_alone`**: a kind is synchronized among the others as it is alone.
* **`stage_generated`**: a module that can be written is generated.
-/

namespace DocCatalog.Sync

/-- The modules are out of the way of what is read, and none lies below another. -/
structure Clear (t : Tree) (root : String) (c : Config) : Prop extends Separate t root c where
  noneBelow : ∀ j k, j ≠ k → ¬ outputPlace root c j <+: outputPlace root c k

theorem outputsApart_of_noneBelow {root : String} {c : Config}
    (h : ∀ j k, j ≠ k → ¬ outputPlace root c j <+: outputPlace root c k) :
    OutputsApart root c := by
  intro j k hjk hsame
  exact h j k hjk ⟨[], (List.append_nil _).trans hsame⟩

/-- A run that cannot meet its own modules: it writes none, or they are out of the way. -/
def Undisturbed (t : Tree) (root : String) (c : Config) (o : Options) : Prop :=
  o.dryRun = true ∨ IsProject t root ∧ Clear t root c

/-! ## One kind alone

The tree that a kind leaves is no part of what is said of it: alone it would leave another one, without
the modules of the other kinds. -/

/-- What is said of a kind, without the tree that it leaves. -/
def KindRun.spoken (k : KindRun) : KindRun := { k with tree := {}, log := [] }

/-- A kind that is synchronized as the only one. -/
def alone (t : Tree) (root : String) (c : Config) (o : Options) (kind : RecordKind) : KindRun :=
  (planFor t root c (readReference t root c.commands) kind).run kind o (destination root c kind) t

/-! ## The kinds before

What was written before a kind has come to its turn is beside its module. It plans the same and ends
the same as from the tree at the start. -/

section Beside

variable {kind : RecordKind} {o : Options} {d : Destination} {t t' : Tree} {top : Place}
  {names : List String} {p : Place}

/-- A plan changes the tree on the way to its module only. -/
theorem get?_perform (h : t.Leads d.fullPath top names) (hp : ¬ p <+: Path.placeOf d.fullPath)
    (todo : Todo) : (todo.perform kind o d t).2.get? p = t.get? p := by
  cases todo with
  | fail e => rfl
  | leave message => rfl
  | write m =>
      cases hdry : o.dryRun with
      | true => rw [perform_write_dry hdry]
      | false =>
          rw [perform_write_tree hdry]
          exact h.get?_replace m.code hp

/-- A plan ends alike where its module is read alike and can be written alike. -/
theorem perform_ending_eq (todo : Todo)
    (hread : (t'.readText d.fullPath).toOption = (t.readText d.fullPath).toOption)
    (hreplace : ∀ text, (t'.replace d.fullPath text).2 = (t.replace d.fullPath text).2) :
    (todo.perform kind o d t').1 = (todo.perform kind o d t).1 := by
  cases todo with
  | fail e => rfl
  | leave message => rfl
  | write m =>
      have houtcome : outcomeOf kind o d m t' = outcomeOf kind o d m t := by
        simp only [outcomeOf, hread]
      cases hdry : o.dryRun with
      | true => rw [perform_write_dry hdry, perform_write_dry hdry, houtcome]
      | false =>
          -- a write fails in both trees or in none, and for the same reason
          have hsame := hreplace m.code
          rcases hnew : t'.replace d.fullPath m.code with ⟨s', e'⟩
          rcases hold : t.replace d.fullPath m.code with ⟨s, e⟩
          rw [hnew, hold] at hsame
          simp only at hsame
          subst hsame
          cases e' with
          | none => rw [perform_write_ok hdry hnew, perform_write_ok hdry hold, houtcome]
          | some e => rw [perform_write_error hdry hnew, perform_write_error hdry hold]

end Beside

section Before

variable {t : Tree} {root : String} {c : Config} {o : Options} {p : Place}

theorem get?_stage (hproject : IsProject t root) (hsep : Separate t root c) (k : RecordKind)
    (hp : ¬ p <+: outputPlace root c k) :
    (stage (stepOf t root c o) t k).tree.get? p = (before (stepOf t root c o) t k).get? p := by
  obtain ⟨top, names, hleads⟩ := leads_output hproject hsep k
  have hbefore := hleads.of_extends (extends_before (stage_extends t root c o) k)
  exact get?_perform hbefore hp _

/-- The kinds before a kind change the tree on the way to their own modules only. -/
theorem get?_before (hproject : IsProject t root) (hsep : Separate t root c) (k : RecordKind)
    (hp : ∀ j, j ≠ k → ¬ p <+: outputPlace root c j) :
    (before (stepOf t root c o) t k).get? p = t.get? p := by
  have hstage := fun j hj => get?_stage (o := o) hproject hsep j (hp j hj)
  cases k with
  | component => rfl
  | command => exact hstage .component (by decide)
  | pattern => exact (hstage .command (by decide)).trans (hstage .component (by decide))

/-- **A kind finds what is in the way of its module as the run has found it.** -/
theorem replace_before (hproject : IsProject t root) (hclear : Clear t root c) (k : RecordKind)
    (text : String) :
    ((before (stepOf t root c o) t k).replace (destination root c k).fullPath text).2
      = (t.replace (destination root c k).fullPath text).2 := by
  have hext := extends_before (stage_extends t root c o) k
  obtain ⟨top, names, hleads⟩ := leads_output hproject hclear.toSeparate k
  refine hleads.replace_beside hproject.wellFormed hext ?_ ?_ text
  · -- no file that another kind writes is above the module
    intro p hp
    refine hext.fileAt ?_
    rintro ⟨j, hj, hplace, -⟩
    rw [hplace] at hp
    exact hclear.noneBelow j k hj hp
  · -- and no directory that another kind makes is in its place
    exact get?_before hproject hclear.toSeparate k fun j hj => hclear.noneBelow k j hj.symm

end Before

theorem referenceOf_undisturbed {t : Tree} {root : String} {c : Config} {o : Options}
    (h : Undisturbed t root c o) : referenceOf t root c o = readReference t root c.commands := by
  rcases h with hdry | ⟨-, hclear⟩
  · rw [referenceOf, Plan.run, perform_tree_of_dry hdry]
  · exact referenceOf_eq hclear.toSeparate o

/-- **A kind is synchronized among the others as it is alone.** -/
theorem stage_alone {t : Tree} {root : String} {c : Config} {o : Options}
    (h : Undisturbed t root c o) (k : RecordKind) :
    (stage (stepOf t root c o) t k).spoken = (alone t root c o k).spoken := by
  rcases h with hdry | ⟨hproject, hclear⟩
  · -- nothing is written, so that all kinds find the same tree
    have hbefore : before (stepOf t root c o) t k = t := by
      have hstep : ∀ j s, (stepOf t root c o j s).tree = s := fun _ _ => perform_tree_of_dry hdry _
      cases k with
      | component => rfl
      | command => exact hstep .component t
      | pattern => exact (hstep .command _).trans (hstep .component t)
    rw [stage, hbefore, stepOf, referenceOf_undisturbed (Or.inl hdry), alone]
  · have hending := @perform_ending_eq k o _ _ _
      (planFor t root c (readReference t root c.commands) k).todo
      (readText_before hproject hclear.toSeparate o k) (replace_before hproject hclear k)
    rw [stage]
    generalize before (stepOf t root c o) t k = s at hending
    rw [stepOf, referenceOf_eq hclear.toSeparate, alone]
    simp only [KindRun.spoken, Plan.run, hending]

/-- **A module that can be written is generated**, whatever the other kinds do. Whether it can be
written is told from the tree that the run begins with. -/
theorem stage_generated {t : Tree} {root : String} {c : Config} {o : Options}
    (h : Undisturbed t root c o) {k : RecordKind} {m : Emit.GeneratedModule}
    (htodo : (planFor t root c (readReference t root c.commands) k).todo = .write m)
    (hreplace : (t.replace (destination root c k).fullPath m.code).2 = none) :
    (stage (stepOf t root c o) t k).ending
      = .generated (outcomeOf k o (destination root c k) m t) := by
  have hspoken := congrArg KindRun.ending (stage_alone h k)
  have hending : (stage (stepOf t root c o) t k).ending = (alone t root c o k).ending := hspoken
  rw [hending, alone, Plan.run, htodo]
  cases hdry : o.dryRun with
  | true => rw [perform_write_dry hdry]
  | false =>
      rcases hnew : t.replace (destination root c k).fullPath m.code with ⟨t', failed⟩
      rw [hnew] at hreplace
      subst hreplace
      rw [perform_write_ok hdry hnew]

end DocCatalog.Sync
