import DocCatalog.Reference.QuickReference
import DocCatalog.Proofs.Text.Occurrence

/-!
# Going along the lines of a reference

What a reference says is gathered line by line, and what a line says depends on the lines around it.

* **`Gathers`**: what is gathered from the elements of a list, each of them with what stands before and
  behind it.
* **`IsHeadingLine`**: a line that begins a section.
* **`IsCode`**, **`gathers_codeLines`**: the lines of code are those inside of fences.
-/

namespace DocCatalog.Reference

/-! ## Gathering

What a line makes may depend on what stands before and behind it, so the relation goes along the
list with both. -/

/-- The results come from the elements in their order, from each of them one or none. -/
inductive Gathers {α β : Type} (Makes : List α → α → List α → β → Prop) :
    List α → List α → List β → Prop
  | nil {before : List α} : Gathers Makes before [] []
  | made {before behind : List α} {a : α} {b : β} {bs : List β} (h : Makes before a behind b)
      (hrest : Gathers Makes (before ++ [a]) behind bs) : Gathers Makes before (a :: behind) (b :: bs)
  | silent {before behind : List α} {a : α} {bs : List β} (h : ∀ b, ¬ Makes before a behind b)
      (hrest : Gathers Makes (before ++ [a]) behind bs) : Gathers Makes before (a :: behind) bs

/-- Filtering gathers what fits, whatever stands around it. -/
theorem gathers_filter {α : Type} (p : α → Bool) (before as : List α) :
    Gathers (fun _ a _ b => b = a ∧ p a = true) before as (as.filter p) := by
  induction as generalizing before with
  | nil => exact .nil
  | cons a as ih =>
      cases ha : p a with
      | true =>
          rw [List.filter_cons_of_pos ha]
          exact .made ⟨rfl, ha⟩ (ih _)
      | false =>
          rw [List.filter_cons_of_neg (Bool.eq_false_iff.mp ha)]
          refine .silent (fun b hb => ?_) (ih _)
          rw [ha] at hb
          cases hb.2

theorem map_toList_ofList (texts : List (List Char)) :
    (texts.map String.ofList).map String.toList = texts := by
  rw [List.map_map]
  exact List.map_id'' (fun _ => String.toList_ofList) texts

/-! ## Headings

Sections and lists of bullets end at these lines. -/

/-- The line begins a section. -/
def IsHeadingLine (line : List Char) : Prop := ['#', '#'] <+: Text.trim line

instance : DecidablePred IsHeadingLine := fun line =>
  inferInstanceAs (Decidable (['#', '#'] <+: Text.trim line))

/-! ## Code

A fence opens or closes, depending on how many there were before. -/

/-- The line begins or ends a block of code. -/
def isFence (line : List Char) : Bool := ['\x60', '\x60', '\x60'].isPrefixOf (Text.trim line)

/-- Behind the lines, a block of code has begun and not ended. -/
def inFence (before : List (List Char)) : Bool := before.countP isFence % 2 == 1

/-- The line is one of code behind the lines `before`: it stands in a block of code, and is neither
blank nor a comment. -/
structure IsCode (before : List (List Char)) (line code : List Char) : Prop where
  text : code = Text.trim line
  fenced : inFence before = true
  noFence : isFence line = false
  ne_nil : code ≠ []
  noComment : code.head? ≠ some '#'

/-- A fence changes whether the lines behind it are inside. -/
theorem inFence_concat_fence (before : List (List Char)) {line : List Char} (h : isFence line = true) :
    inFence (before ++ [line]) = !inFence before := by
  rw [inFence, inFence, List.countP_append, List.countP_singleton, if_pos h]
  rcases Nat.mod_two_eq_zero_or_one (before.countP isFence) with heven | hodd
  · rw [heven, show (before.countP isFence + 1) % 2 = 1 by omega]
    rfl
  · rw [hodd, show (before.countP isFence + 1) % 2 = 0 by omega]
    rfl

theorem inFence_concat (before : List (List Char)) {line : List Char} (h : isFence line = false) :
    inFence (before ++ [line]) = inFence before := by
  rw [inFence, inFence, List.countP_append, List.countP_singleton, if_neg (Bool.eq_false_iff.mp h),
    Nat.add_zero]

/-- **Code is gathered** from the lines inside of fences. -/
theorem gathers_codeLines (before lines : List (List Char)) :
    Gathers (fun before line _ code => IsCode before line code) before lines
      (codeLinesFrom (inFence before) lines) := by
  induction lines generalizing before with
  | nil => exact .nil
  | cons line lines ih =>
      have hrest := ih (before ++ [line])
      rw [codeLinesFrom, ← isFence]
      -- a fence changes sides, and any other line is code or not by what stands before it
      cases hfence : isFence line with
      | true =>
          rw [inFence_concat_fence before hfence] at hrest
          rw [if_pos rfl]
          exact .silent (fun code hcode => Bool.false_ne_true (hcode.noFence.symm.trans hfence)) hrest
      | false =>
          rw [inFence_concat before hfence] at hrest
          rw [if_neg Bool.false_ne_true]
          split
          · next hcode =>
              rw [Bool.and_eq_true, Bool.and_eq_true, Bool.not_eq_true', bne_iff_ne] at hcode
              obtain ⟨⟨hfenced, hne⟩, hcomment⟩ := hcode
              refine .made ⟨rfl, hfenced, hfence, ?_, hcomment⟩ hrest
              rintro hnil
              rw [hnil] at hne
              cases hne
          · next hnot =>
              refine .silent (fun code hcode => hnot ?_) hrest
              obtain ⟨rfl, hfenced, -, hne, hcomment⟩ := hcode
              rw [hfenced, Bool.true_and, Bool.and_eq_true, bne_iff_ne, Bool.not_eq_true',
                List.isEmpty_eq_false_iff]
              exact ⟨hne, hcomment⟩

end DocCatalog.Reference
