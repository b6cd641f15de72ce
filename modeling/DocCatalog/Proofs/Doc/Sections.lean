import DocCatalog.Proofs.Doc.TagLine
import DocCatalog.Proofs.Doc.Written

/-!
# Sections

Lines that close every fence they open and begin no tag outside of the fences. They are read as they
are, and what follows them is read as if they were not there.

* **`IsSection`**: such lines.
* **`structureOf_section`**: what is read from a section with lines behind it.
* **`structureOf_tagLine`**: what is read from the line of a tag with lines behind it.
-/

namespace DocCatalog.Doc

/-- The line opens or closes a fence. -/
def isMarker (line : Line) : Bool := isFence (Text.trim line)

/-- Every fence is closed, and no line outside of the fences has the shape of a tag. -/
structure IsSection (lines : List Line) : Prop where
  oneLine : ∀ l ∈ lines, '\n' ∉ l
  closed : lines.countP isMarker % 2 = 0
  untagged : ∀ i, ∀ h : i < lines.length, (lines.take i).countP isMarker % 2 = 0 →
    isTagShape (Text.trim lines[i]) = false

instance (lines : List Line) : Decidable (IsSection lines) :=
  decidable_of_iff
    ((∀ l ∈ lines, '\n' ∉ l) ∧ lines.countP isMarker % 2 = 0
      ∧ ∀ i, ∀ h : i < lines.length, (lines.take i).countP isMarker % 2 = 0 →
        isTagShape (Text.trim lines[i]) = false)
    ⟨fun ⟨hone, hclosed, huntagged⟩ => ⟨hone, hclosed, huntagged⟩,
      fun h => ⟨h.oneLine, h.closed, h.untagged⟩⟩

/-! ## From within a fence

Whether a line stands in a fence depends on the markers before it. So what has to be said of lines
is said for both cases, and a marker changes from one to the other. -/

/-- The lines are the rest of a section. `fenced` holds inside of a fence. -/
structure Closes (fenced : Bool) (lines : List Line) : Prop where
  closed : (fenced.toNat + lines.countP isMarker) % 2 = 0
  untagged : ∀ i, ∀ h : i < lines.length, (fenced.toNat + (lines.take i).countP isMarker) % 2 = 0 →
    isTagShape (Text.trim lines[i]) = false

/-- A section begins and ends outside of fences. -/
theorem IsSection.closes {lines : List Line} (h : IsSection lines) : Closes false lines := by
  refine ⟨?_, fun i hi hcount => h.untagged i hi ?_⟩
  · rw [Bool.toNat_false, Nat.zero_add]
    exact h.closed
  · rwa [Bool.toNat_false, Nat.zero_add] at hcount

variable {fenced : Bool} {line : Line} {lines : List Line}

/-- A marker changes the side on which the next line stands. -/
theorem toNat_xor_isMarker (fenced : Bool) (line : Line) (lines : List Line) :
    ((fenced ^^ isMarker line).toNat + lines.countP isMarker) % 2
      = (fenced.toNat + (line :: lines).countP isMarker) % 2 := by
  rw [List.countP_cons]
  cases fenced <;> cases isMarker line <;> simp <;> omega

/-- A line outside of fences begins no tag. -/
theorem Closes.head (h : Closes false (line :: lines)) : isTagShape (Text.trim line) = false :=
  h.untagged 0 (Nat.zero_lt_succ _) rfl

/-- The lines behind the first one close what is open behind it. -/
theorem Closes.tail (h : Closes fenced (line :: lines)) :
    Closes (fenced ^^ isMarker line) lines := by
  refine ⟨(toNat_xor_isMarker fenced line lines).trans h.closed, fun i hi hcount => ?_⟩
  rw [toNat_xor_isMarker] at hcount
  exact h.untagged (i + 1) (Nat.succ_lt_succ hi) hcount

/-- A carriage return at the end of a line makes no difference. -/
theorem Closes.dropReturn (h : Closes fenced lines) :
    Closes fenced (lines.map Text.dropReturn) := by
  have hmarker : isMarker ∘ Text.dropReturn = isMarker := by
    funext line
    show isFence (Text.trim (Text.dropReturn line)) = isFence (Text.trim line)
    rw [Text.trim_dropReturn]
  refine ⟨?_, fun i hi hcount => ?_⟩
  · rw [List.countP_map, hmarker]
    exact h.closed
  · rw [List.getElem_map, Text.trim_dropReturn]
    rw [← List.map_take, List.countP_map, hmarker] at hcount
    exact h.untagged i _ hcount

/-! ## Reading

The lines are read one by one, and no tag is met. -/

/-- A line that begins no tag stays where it is. -/
theorem structureOf_cons (h : fenced = false → isTagShape (Text.trim line) = false) :
    structureOf fenced (line :: lines)
      = (line :: (structureOf (fenced ^^ isMarker line) lines).1,
        (structureOf (fenced ^^ isMarker line) lines).2) := by
  -- inside a fence no line opens a tag, and outside of it this one does not look like one
  have hnone : (if fenced then none else tagLine? (Text.trim line)) = none := by
    cases fenced with
    | true => rfl
    | false =>
        cases htag : tagLine? (Text.trim line) with
        | none => rfl
        | some found =>
            have hshape := isTagShape_of_tagLine? htag
            rw [h rfl] at hshape
            cases hshape
  rw [structureOf, hnone]
  by_cases hmarker : isMarker line = true
  · rw [hmarker, Bool.xor_true]
    exact if_pos hmarker
  · rw [Bool.eq_false_iff.mpr hmarker, Bool.xor_false]
    exact if_neg hmarker

/-- **A section is read as it is**, and its fences do not reach behind it. -/
theorem structureOf_section (h : Closes fenced lines) (rest : List Line) :
    structureOf fenced (lines ++ rest)
      = (lines ++ (structureOf false rest).1, (structureOf false rest).2) := by
  -- the markers that are left tell whether a fence is open
  induction lines generalizing fenced with
  | nil =>
      have hfenced : fenced = false := by
        have hclosed := h.closed
        cases fenced with
        | true => cases hclosed
        | false => rfl
      rw [hfenced]
      rfl
  | cons line lines ih =>
      have hline : fenced = false → isTagShape (Text.trim line) = false := by
        rintro rfl
        exact h.head
      rw [List.cons_append, structureOf_cons hline, ih h.tail, List.cons_append]

/-- The line of a tag takes the lines up to the next one. -/
theorem structureOf_tagLine {name first : Line} (h : tagLine? (Text.trim line) = some (name, first))
    (rest : List Line) :
    structureOf false (line :: rest)
      = ([], ⟨name, first :: (structureOf false rest).1⟩ :: (structureOf false rest).2) := by
  have hmarker : isFence (Text.trim line) = false := by
    generalize Text.trim line = trimmed at h
    have hshape := isTagShape_of_tagLine? h
    unfold isTagShape at hshape
    split at hshape
    · rfl
    · cases hshape
  rw [structureOf, if_neg (Bool.eq_false_iff.mp hmarker), if_neg Bool.false_ne_true, h]

end DocCatalog.Doc
