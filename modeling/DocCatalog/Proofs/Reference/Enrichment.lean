import DocCatalog.Proofs.Reference.Bullets
import Mathlib.Data.List.Forall2

/-!
# Enrichment fills gaps

A reference gives examples and notes to commands that have none, and takes nothing from those that have
some.

* **`Completes`**: a list that is kept, or found in the reference.
* **`Fills`**: a command before and after enrichment.
* **`enrichCommand_fills`**, **`enrichCommand_again`**: one command, and once more.
* **`enrich_fillsGaps`**: all commands, each by itself.
-/

namespace DocCatalog.Reference

namespace QuickReference

/-- The list has been kept, or it was empty and holds those of the texts, in their order, that mention
the name as a whole word. -/
inductive Completes (texts : List String) (name : String) : List String → List String → Prop
  | kept {own : List String} (h : own ≠ []) : Completes texts name own own
  | found {found : List String}
      (h : Gathers (fun _ text _ t => t = text ∧ Text.WholeWord name.toList text.toList) [] texts found) :
      Completes texts name [] found

/-- The command has been enriched: only its examples and its notes may differ, and these only if there
were none. -/
structure Fills (q : QuickReference) (c filled : CommandRecord) : Prop where
  frame : filled = { c with examples := filled.examples, notes := filled.notes }
  examples : Completes q.codeLines c.name c.examples filled.examples
  notes : Completes q.notes c.name c.notes filled.notes

/-- Those texts are found that mention the name as a whole word. -/
theorem gathers_mentioning (texts : List String) (name : String) :
    Gathers (fun _ text _ t => t = text ∧ Text.WholeWord name.toList text.toList) [] texts
      (mentioning texts name) := by
  simp only [← Text.mentions_iff]
  exact gathers_filter _ [] texts

/-- An empty list is completed with them. -/
theorem completes_mentioning (texts own : List String) (name : String) :
    Completes texts name own (if own.isEmpty then mentioning texts name else own) := by
  cases own with
  | nil => exact .found (gathers_mentioning texts name)
  | cons first own => exact .kept (List.cons_ne_nil first own)

/-- **One command** is filled. -/
theorem enrichCommand_fills (q : QuickReference) (c : CommandRecord) : Fills q c (q.enrichCommand c) where
  frame := rfl
  examples := completes_mentioning q.codeLines c.examples c.name
  notes := completes_mentioning q.notes c.notes c.name

/-- What has been filled or kept is kept, and what was not found is not found again. -/
theorem fill_again (found own : List String) :
    (if (if own.isEmpty then found else own).isEmpty then found else if own.isEmpty then found else own)
      = if own.isEmpty then found else own := by
  cases own with
  | nil => exact ite_self found
  | cons first own => rfl

/-- Once more changes nothing: what was found is found again, and what was not is not. -/
theorem enrichCommand_again (q : QuickReference) (c : CommandRecord) :
    q.enrichCommand (q.enrichCommand c) = q.enrichCommand c := by
  have hexamples := fill_again (q.examplesFor c.name) c.examples
  have hnotes := fill_again (q.notesFor c.name) c.notes
  unfold enrichCommand
  rw [hexamples, hnotes]

/-- **Every command** is filled by itself. -/
theorem fills_enrich (q : QuickReference) (cs : List CommandRecord) :
    List.Forall₂ (Fills q) cs (q.enrich cs) := by
  rw [enrich, List.forall₂_map_right_iff, List.forall₂_same]
  exact fun c _ => enrichCommand_fills q c

/-- **Enrichment only fills gaps.** The lines of code and the notes come from the text; every command
keeps its place and what it says; its result depends on nothing but itself, and is final. -/
theorem enrich_fillsGaps (text : String) (cs : List CommandRecord) :
    Gathers (fun before line _ code => IsCode before line code) [] (Text.lines text.toList)
        ((parse text).codeLines.map String.toList)
      ∧ Gathers Makes [] (Text.lines text.toList) ((parse text).notes.map String.toList)
      ∧ List.Forall₂ (Fills (parse text)) cs ((parse text).enrich cs)
      ∧ (∀ (others : List CommandRecord) (i j : Nat), cs[i]? = others[j]? →
          ((parse text).enrich cs)[i]? = ((parse text).enrich others)[j]?)
      ∧ (parse text).enrich ((parse text).enrich cs) = (parse text).enrich cs := by
  refine ⟨?_, ?_, fills_enrich _ cs, fun others i j h => ?_, ?_⟩
  · rw [parse, map_toList_ofList]
    exact gathers_codeLines [] _
  · rw [parse, map_toList_ofList]
    exact gathers_notes _
  · rw [enrich, enrich, List.getElem?_map, List.getElem?_map, h]
  · rw [enrich, enrich, List.map_map]
    exact List.map_congr_left fun c _ => enrichCommand_again (parse text) c

/-- A reference with a name of dots and signs in code, in a comment and in a note. -/
def signsText : String :=
  "```sh\n# c++x\nrun C++x --all\nrun c+x\n```\nc++x\n**Note**: c++x is slow\n**CRITICAL**: back up, c++-\n"

/-- A name that ends with signs. -/
def signsCommand (examples : List String) : CommandRecord :=
  ⟨"c++", none, "", "c++", [], [], examples, [], ⟨"bin/cli.js", 1⟩⟩

/-- Behind a sign a word ends only where a letter or a digit follows. -/
theorem enrich_fillsGaps_signs :
    Fills (parse signsText) (signsCommand [])
        { signsCommand ["run C++x --all"] with notes := ["c++x is slow"] }
      ∧ Fills (parse signsText) (signsCommand ["c++ a"])
        { signsCommand ["c++ a"] with notes := ["c++x is slow"] }
      ∧ [signsCommand [], signsCommand ["c++ a"]][1]? = [signsCommand ["c++ a"]][0]?
      ∧ ((parse signsText).enrich [signsCommand [], signsCommand ["c++ a"]])[1]?
        = ((parse signsText).enrich [signsCommand ["c++ a"]])[0]? := by
  obtain ⟨-, -, hfills, halone, -⟩ :=
    enrich_fillsGaps signsText [signsCommand [], signsCommand ["c++ a"]]
  have hresult : (parse signsText).enrich [signsCommand [], signsCommand ["c++ a"]]
      = [{ signsCommand ["run C++x --all"] with notes := ["c++x is slow"] },
        { signsCommand ["c++ a"] with notes := ["c++x is slow"] }] := by decide
  have hsecond := halone [signsCommand ["c++ a"]] 1 0 rfl
  rw [hresult] at hfills
  obtain ⟨hfirst, hrest⟩ := List.forall₂_cons.mp hfills
  exact ⟨hfirst, (List.forall₂_cons.mp hrest).1, rfl, hsecond⟩

end QuickReference

end DocCatalog.Reference
