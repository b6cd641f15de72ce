import DocCatalog.Config.Project
import DocCatalog.Proofs.Files.Straight
import DocCatalog.Proofs.Sync.Frame

/-!
# Modules that are out of the way

While a run goes on, it reads files beside those that it writes. When these are kept apart, it reads
them as they were at the beginning.

* **`IsProject`**: a tree with the root of a project.
* **`Separate`**: modules that are not in the way of each other, nor in that of the quick reference.
* **`referenceOf_eq`**, **`readText_before`**: what is read is what was there at the beginning.
-/

namespace DocCatalog.Sync

/-- The tree is one of a file system, and the root of the project is a directory in it. -/
structure IsProject (t : Tree) (root : String) : Prop where
  wellFormed : t.WellFormed
  root : t.isDirectory root = true

/-- The modules have places of their own, no path to them leads up, and the quick reference, if there
is one, is a text that can be read and none of them. -/
structure Separate (t : Tree) (root : String) (c : Config) : Prop where
  apart : OutputsApart root c
  straight : ∀ k, ".." ∉ Path.components (Path.join c.outputDir (c.source k).output)
  reference : ∀ path, c.commands.reference = some path →
    (∃ text, t.readText (Path.join root path) = .ok text)
      ∧ ∀ k, Path.placeOf (Path.join root path) ≠ outputPlace root c k

/-- The root that is found for a project is a directory: there is a file in it. -/
theorem isDirectory_of_findRoot? {t : Tree} {start root : String}
    (h : Project.findRoot? t start = some root) : t.isDirectory root = true := by
  have hroot : Project.isRoot t root = true := List.find?_some h
  obtain ⟨marker, hmarker, hfile⟩ := List.any_eq_true.mp hroot
  have hmarked : ∀ m ∈ Project.markers,
      Path.isAbsolute m = false ∧ Path.named m = [.into m] := by decide
  obtain ⟨hrelative, hinto⟩ := hmarked marker hmarker
  have hnamed : Path.named (Path.join root marker) = Path.named root ++ [.into marker] := by
    rw [Path.named_join, hrelative, if_neg Bool.false_ne_true, hinto]
  unfold Tree.isFile Tree.entryAt Tree.locate at hfile
  cases hlocate : t.walk [] (Path.steps (Path.join root marker)) with
  | error e => simp [hlocate, bind, Except.bind] at hfile
  | ok place =>
      rw [Path.steps, hnamed, List.append_assoc] at hlocate
      obtain ⟨hwalk, hrest⟩ := Tree.walk_of_append hlocate
      exact Tree.isDirectory_of_walk_named hwalk (Tree.directory_of_walk_cons hrest).1

section

variable {t t' : Tree} {root : String} {c : Config} {written : Place → Prop}

theorem leads_output (hproject : IsProject t root) (hsep : Separate t root c) (k : RecordKind) :
    ∃ top names, t.Leads (destination root c k).fullPath top names := by
  obtain ⟨top, htop⟩ := Tree.leads_join_tidy hproject.root (hsep.straight k)
  exact ⟨top, _, htop⟩

/-- The module of a kind is read as before, unless it has been written. -/
theorem readText_output (hproject : IsProject t root) (hsep : Separate t root c) {k : RecordKind}
    (hext : t.Extends written t') (hk : ¬ written (outputPlace root c k)) :
    (t'.readText (destination root c k).fullPath).toOption
      = (t.readText (destination root c k).fullPath).toOption := by
  obtain ⟨top, names, hleads⟩ := leads_output hproject hsep k
  refine hleads.readText_extends hproject.wellFormed hext ?_
  rw [← hleads.placeOf_eq]
  exact hk

/-- The quick reference is read as before when only modules have been written. -/
theorem readReference_extends (hsep : Separate t root c)
    (hext : t.Extends (fun p => ∃ k, p = outputPlace root c k) t') :
    readReference t' root c.commands = readReference t root c.commands := by
  unfold readReference
  cases href : c.commands.reference with
  | none => rfl
  | some path =>
      obtain ⟨⟨text, htext⟩, hplace⟩ := hsep.reference path href
      have htext' : t'.readText (Path.join root path) = .ok text :=
        hext.readText htext fun ⟨k, hk⟩ => hplace k hk
      simp only [htext, htext']

/-- **The quick reference is read as it was when the run began.** -/
theorem referenceOf_eq (hsep : Separate t root c) (o : Options) :
    referenceOf t root c o = readReference t root c.commands :=
  readReference_extends hsep ((perform_extends _).mono fun _ hp => ⟨.component, hp.1⟩)

/-- **The module of a kind is read as it was when the run began.** -/
theorem readText_before (hproject : IsProject t root) (hsep : Separate t root c) (o : Options)
    (k : RecordKind) :
    ((before (stepOf t root c o) t k).readText (destination root c k).fullPath).toOption
      = (t.readText (destination root c k).fullPath).toOption := by
  refine readText_output hproject hsep (extends_before (stage_extends t root c o) k) ?_
  rintro ⟨j, hj, hplace, -⟩
  exact hsep.apart k j hj.symm hplace

end

end DocCatalog.Sync
