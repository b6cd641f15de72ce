import DocCatalog.Proofs.Emit.Arrangement
import DocCatalog.Proofs.Emit.Classified

/-!
# Why a record has its entry, or none

Whether a record gets an entry depends on the record and on those before it in the order of names. Of
these only the ones that are fit for an entry themselves count, so that a record which is left out for
a bad key or an empty field stands in nobody's way.

* **`IsFit`**, **`GetsEntry`**, **`FirstReason`**: what decides on a record, without the keys taken.
* **`Holds`**: the keys that are taken are those of the fit records so far.
* **`decided_classify`**: every decision is the right one.
* **`shadowed_classify`**: a key is taken by an entry that is there.
* **`generate_decides`**: the decisions on all records, and the table and warnings made from them.
-/

namespace DocCatalog.Emit

variable {ρ : Type} [Catalogued ρ]

/-! ## What decides

A record is fit if it could have an entry by itself. Whether it gets one depends on the fit records
before it, and the relations say so without the list of keys that the program keeps. -/

/-- The key is an identifier and no required field is empty. -/
def IsFit (r : ρ) : Prop :=
  isIdentifier (Catalogued.key r) = true ∧ Catalogued.missing? r = none

/-- The record is fit, and no fit record before it has its key. -/
def GetsEntry (earlier : List ρ) (r : ρ) : Prop :=
  IsFit r ∧ ∀ s ∈ earlier, IsFit s → Catalogued.key s ≠ Catalogued.key r

/-- The first reason that applies to a record which gets no entry. -/
def FirstReason (earlier : List ρ) (r : ρ) : Exclusion → Prop
  | .invalidKey => isIdentifier (Catalogued.key r) = false
  | .emptyField field =>
    isIdentifier (Catalogued.key r) = true ∧ Catalogued.missing? r = some field
  | .duplicateKey => IsFit r ∧ ∃ s ∈ earlier, IsFit s ∧ Catalogued.key s = Catalogued.key r

/-- The decision on a record behind `earlier`: it gets an entry, or it does not for this reason. -/
structure Decided (earlier : List ρ) (r : ρ) (e? : Option Exclusion) : Prop where
  entry : e? = none ↔ GetsEntry earlier r
  reason : ∀ e, e? = some e ↔ FirstReason earlier r e

/-- The records in order, where those that are equal in it stay as they were. -/
structure IsStableSort (le : ρ → ρ → Bool) (records ordered : List ρ) : Prop where
  perm : ordered.Perm records
  inOrder : ordered.Pairwise fun r s => le r s = true
  stable : ∀ rs : List ρ, rs.Pairwise (fun r s => le r s = true) → rs.Sublist records →
    rs.Sublist ordered

/-- A module of the records, with the decision on each of them. -/
structure Decides (g : Generator ρ) (records : List ρ) (m : GeneratedModule)
    (decisions : List (ρ × Option Exclusion)) : Prop where
  order : IsStableSort precedes records (decisions.map Prod.fst)
  decided : ∀ before r e? after, decisions = before ++ (r, e?) :: after →
    Decided (before.map Prod.fst) r e?
  table : Tabulates g (keptOf decisions) m.code
  recordCount : m.recordCount = (keptOf decisions).length
  warnings : m.warnings = warningsOf decisions
  total : m.warnings.length + m.recordCount = records.length
  /-- A record is in the way of another one only with an entry of its own. -/
  shadowed : ∀ before r after, decisions = before ++ (r, some .duplicateKey) :: after →
    ∃ s, (s, none) ∈ before ∧ Catalogued.key s = Catalogued.key r
  /-- Every key that a fit record has is there, and there once. -/
  once : ∀ r ∈ records, IsFit r →
    ((keptOf decisions).map Catalogued.key).count (Catalogued.key r) = 1

/-! ## One record

The reasons exclude each other, since each of them is the first that applies. -/

section Reasons

variable {earlier : List ρ} {r : ρ} {e e' : Exclusion}

/-- Of the reasons only the last one applies to a fit record. -/
theorem FirstReason.of_isFit (h : FirstReason earlier r e) (hfit : IsFit r) :
    e = .duplicateKey ∧ ∃ s ∈ earlier, IsFit s ∧ Catalogued.key s = Catalogued.key r := by
  cases e with
  | invalidKey =>
      rw [FirstReason, hfit.1] at h
      cases h
  | emptyField field =>
      rw [FirstReason, hfit.2] at h
      cases h.2
  | duplicateKey => exact ⟨rfl, h.2⟩

/-- A record that is left out gets no entry. -/
theorem FirstReason.not_getsEntry (h : FirstReason earlier r e) : ¬ GetsEntry earlier r := by
  rintro ⟨hfit, hnew⟩
  obtain ⟨-, s, hs, hsfit, hsame⟩ := h.of_isFit hfit
  exact hnew s hs hsfit hsame

/-- There is one reason for it. -/
theorem FirstReason.unique (h : FirstReason earlier r e) (h' : FirstReason earlier r e') :
    e = e' := by
  cases e <;> cases e' <;> simp_all [FirstReason, IsFit]

/-- To give it an entry is right where it gets one. -/
theorem GetsEntry.decided (h : GetsEntry earlier r) : Decided earlier r none where
  entry := by simp [h]
  reason e := by
    simp only [reduceCtorEq, false_iff]
    exact fun hreason => hreason.not_getsEntry h

/-- To leave it out is right where there is a reason. -/
theorem FirstReason.decided (h : FirstReason earlier r e) : Decided earlier r (some e) where
  entry := by simp [h.not_getsEntry]
  reason e' := by
    rw [Option.some.injEq]
    constructor
    · rintro rfl
      exact h
    · exact h.unique

end Reasons

/-! ## The keys that are taken

The keys that are taken say as much as the records before. A decision keeps it so: the key of a record
with an entry is taken behind it, and a record that is left out is either unfit, or has a key that was
taken before. -/

/-- The keys that are taken behind a record. -/
def takenBehind (taken : List String) (r : ρ) : List String :=
  match exclusion? taken r with
  | none => Catalogued.key r :: taken
  | some _ => taken

/-- Each decision is made with the keys that are taken before it. -/
theorem classify_cons (taken : List String) (r : ρ) (records : List ρ) :
    classify taken (r :: records)
      = (r, exclusion? taken r) :: classify (takenBehind taken r) records := by
  unfold takenBehind
  cases h : exclusion? taken r with
  | some e => exact classify_of_excluded h records
  | none => exact classify_of_kept h records

/-- A key that is taken behind a record is its own, or was taken before. -/
theorem mem_takenBehind {taken : List String} {r : ρ} {key : String}
    (h : key ∈ takenBehind taken r) :
    exclusion? taken r = none ∧ Catalogued.key r = key ∨ key ∈ taken := by
  unfold takenBehind at h
  split at h
  · next hr =>
      rcases List.mem_cons.mp h with rfl | h
      · exact Or.inl ⟨hr, rfl⟩
      · exact Or.inr h
  · exact Or.inr h

/-- The keys that are taken are those of the fit records before. -/
def Holds (taken : List String) (earlier : List ρ) : Prop :=
  ∀ key, key ∈ taken ↔ ∃ s ∈ earlier, IsFit s ∧ Catalogued.key s = key

namespace Holds

theorem nil : Holds [] ([] : List ρ) := by simp [Holds]

variable {taken : List String} {earlier : List ρ}

/-- **One decision**: the keys that are taken say as much as the records before. -/
theorem decided (h : Holds taken earlier) (r : ρ) : Decided earlier r (exclusion? taken r) := by
  unfold exclusion?
  cases hkey : isIdentifier (Catalogued.key r) with
  | false => exact FirstReason.decided (e := .invalidKey) hkey
  | true =>
      cases hmissing : Catalogued.missing? r with
      | some field => exact FirstReason.decided (e := .emptyField field) ⟨hkey, hmissing⟩
      | none =>
          have hfit : IsFit r := ⟨hkey, hmissing⟩
          simp only [Bool.not_true, Bool.false_eq_true, if_false, List.contains_iff_mem]
          by_cases htaken : Catalogued.key r ∈ taken
          · rw [if_pos htaken]
            exact FirstReason.decided (e := .duplicateKey) ⟨hfit, (h _).mp htaken⟩
          · rw [if_neg htaken]
            refine GetsEntry.decided ⟨hfit, fun s hs hsfit hsame => ?_⟩
            exact htaken ((h _).mpr ⟨s, hs, hsfit, hsame⟩)

/-- A record that is left out does not change which keys are taken by fit ones. -/
theorem excluded (h : Holds taken earlier) {r : ρ} {e : Exclusion}
    (he : FirstReason earlier r e) : Holds taken (earlier ++ [r]) := by
  intro key
  rw [h key]
  constructor
  · rintro ⟨s, hs, hfit, hkey⟩
    exact ⟨s, List.mem_append_left _ hs, hfit, hkey⟩
  · rintro ⟨s, hs, hfit, hkey⟩
    rcases List.mem_append.mp hs with hs | hs
    · exact ⟨s, hs, hfit, hkey⟩
    · -- it is fit itself only if its key was taken before
      rw [List.mem_singleton.mp hs] at hfit hkey
      exact hkey ▸ (he.of_isFit hfit).2

/-- A record with an entry takes its key. -/
theorem kept (h : Holds taken earlier) {r : ρ} (hr : GetsEntry earlier r) :
    Holds (Catalogued.key r :: taken) (earlier ++ [r]) := by
  intro key
  rw [List.mem_cons, h key]
  constructor
  · rintro (rfl | ⟨s, hs, hfit, hkey⟩)
    · exact ⟨r, by simp, hr.1, rfl⟩
    · exact ⟨s, List.mem_append_left _ hs, hfit, hkey⟩
  · rintro ⟨s, hs, hfit, hkey⟩
    rcases List.mem_append.mp hs with hs | hs
    · exact Or.inr ⟨s, hs, hfit, hkey⟩
    · rw [List.mem_singleton.mp hs] at hkey
      exact Or.inl hkey.symm

/-- **One decision** keeps the keys that are taken right, whichever it is. -/
theorem behind (h : Holds taken earlier) (r : ρ) : Holds (takenBehind taken r) (earlier ++ [r]) := by
  have hdecided := h.decided r
  unfold takenBehind
  cases hr : exclusion? taken r with
  | none => exact h.kept (hdecided.entry.mp hr)
  | some e => exact h.excluded ((hdecided.reason e).mp hr)

end Holds

/-! ## All records

The records are decided on in the order of their names. -/

/-- There is one decision for every record. -/
theorem map_fst_classify (taken : List String) (records : List ρ) :
    (classify taken records).map Prod.fst = records := by
  induction records generalizing taken with
  | nil => rfl
  | cons r records ih => rw [classify_cons, List.map_cons, ih]

/-- **Every decision is the right one**, whatever records have come before. -/
theorem decided_classify {taken : List String} {earlier : List ρ} (h : Holds taken earlier)
    (records : List ρ) {before after : List (ρ × Option Exclusion)} {r : ρ} {e? : Option Exclusion}
    (hsplit : classify taken records = before ++ (r, e?) :: after) :
    Decided (earlier ++ before.map Prod.fst) r e? := by
  -- along the records: the first decision is right, and behind it the keys taken are right again
  induction records generalizing taken earlier before with
  | nil => simp [classify] at hsplit
  | cons s records ih =>
      rw [classify_cons] at hsplit
      cases before with
      | nil =>
          cases hsplit
          rw [List.map_nil, List.append_nil]
          exact h.decided r
      | cons b before =>
          obtain ⟨rfl, hrest⟩ := List.cons.inj hsplit
          have hbehind := ih (h.behind s) hrest
          rwa [List.append_assoc] at hbehind

/-- A key counts as a repeated one only if it is taken. -/
theorem mem_of_duplicateKey {taken : List String} {r : ρ}
    (h : exclusion? taken r = some .duplicateKey) : Catalogued.key r ∈ taken := by
  unfold exclusion? at h
  split at h
  · cases h
  · split at h
    · cases h
    · split at h
      · next hmem => exact List.contains_iff_mem.mp hmem
      · cases h

/-- **A key is taken by an entry that is there**, unless it was taken before. -/
theorem shadowed_classify {taken : List String} (records : List ρ)
    {before after : List (ρ × Option Exclusion)} {r : ρ}
    (hsplit : classify taken records = before ++ (r, some .duplicateKey) :: after) :
    Catalogued.key r ∈ taken ∨ ∃ s, (s, none) ∈ before ∧ Catalogued.key s = Catalogued.key r := by
  induction records generalizing taken before with
  | nil => simp [classify] at hsplit
  | cons s records ih =>
      rw [classify_cons] at hsplit
      cases before with
      | nil =>
          obtain ⟨rfl, hs⟩ := Prod.mk.inj (List.cons.inj hsplit).1
          exact Or.inl (mem_of_duplicateKey hs)
      | cons b before =>
          obtain ⟨rfl, hrest⟩ := List.cons.inj hsplit
          rcases ih hrest with htaken | ⟨t, ht, hsame⟩
          · -- the key was put among the taken by the record that was just read, or it was there
            -- before
            rcases mem_takenBehind htaken with ⟨hs, hsame⟩ | htaken
            · rw [hs]
              exact Or.inr ⟨s, List.mem_cons_self, hsame⟩
            · exact Or.inl htaken
          · exact Or.inr ⟨t, List.mem_cons_of_mem _ ht, hsame⟩

/-- The records are put in the order of their names and then of their keys, and those that have both
in common stay as they were. -/
theorem isStableSort_sorted (records : List ρ) : IsStableSort precedes records (sorted records) where
  perm := List.mergeSort_perm _ _
  inOrder := List.pairwise_mergeSort precedes_trans precedes_total records
  stable _ horder hsub := List.sublist_mergeSort precedes_trans precedes_total horder hsub

/-- A fit record, or one before it, has brought its key into the table. -/
theorem key_mem_kept {records : List ρ} {r : ρ} (hr : r ∈ records) (hfit : IsFit r) :
    Catalogued.key r ∈ (kept records).map Catalogued.key := by
  have hmem : r ∈ (classify [] (sorted records)).map Prod.fst := by
    rw [map_fst_classify]
    exact List.mem_mergeSort.mpr hr
  obtain ⟨⟨r', e?⟩, hdecision, rfl⟩ := List.mem_map.mp hmem
  have hkept : ∀ {s : ρ}, (s, none) ∈ classify [] (sorted records) →
      Catalogued.key s ∈ (kept records).map Catalogued.key := by
    intro s hs
    exact List.mem_map_of_mem (List.mem_filterMap.mpr ⟨(s, none), hs, rfl⟩)
  -- a record that is left out though it is fit has its key taken, and by one that is kept
  cases e? with
  | none => exact hkept hdecision
  | some e =>
      obtain ⟨before, after, hsplit⟩ := List.append_of_mem hdecision
      have hreason := ((decided_classify Holds.nil _ hsplit).reason e).mp rfl
      obtain ⟨rfl, -⟩ := hreason.of_isFit hfit
      rcases shadowed_classify _ hsplit with htaken | ⟨s, hs, hsame⟩
      · cases htaken
      · rw [← hsame]
        exact hkept (hsplit ▸ List.mem_append_left _ hs)

/-- **Every record is decided once.** In the order of names, a record gets an entry exactly when it
is fit and no fit record before it has its key; every other one gets a warning with the first reason
that applies to it. -/
theorem generate_decides (g : Generator ρ) (records : List ρ) :
    ∃ decisions, Decides g records (generate g records) decisions := by
  have hlength := length_kept_add_length_warnings g records
  refine ⟨classify [] (sorted records), ?_, ?_, tabulates_generate g records,
    recordCount_generate g records, rfl, ?_, ?_, ?_⟩
  · rw [map_fst_classify]
    exact isStableSort_sorted records
  · intro before r e? after hsplit
    have hdecided := decided_classify Holds.nil (sorted records) hsplit
    rwa [List.nil_append] at hdecided
  · rw [recordCount_generate]
    omega
  · intro before r after hsplit
    -- no key is taken before the first record
    rcases shadowed_classify (sorted records) hsplit with htaken | hshadowed
    · cases htaken
    · exact hshadowed
  · intro r hr hfit
    exact List.count_eq_one_of_mem (nodup_keys_kept records) (key_mem_kept hr hfit)

end DocCatalog.Emit
