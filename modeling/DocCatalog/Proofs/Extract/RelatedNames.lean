import DocCatalog.Extract.Related
import DocCatalog.Proofs.Text.Splitting
import Mathlib.Data.List.Basic
import Mathlib.Data.List.Induction

/-!
# What a comment refers to

The names under `@related` and `@see` are listed once each, in the order in which they are first mentioned
when all values of `@related` are read before those of `@see`.

* **`Mention`**, **`Mention.Before`**: the places in a comment where names can stand, and their order.
* **`Names`**: the name that stands in a place.
* **`distinct_concat`**, **`mem_distinct`**, **`nodup_distinct`**, **`firstBefore_distinct`**: what is left
  of a list when every element is kept once.
* **`mentionsOf`**, **`mem_mentionsOf`**, **`ascending_mentionsOf`**: all mentions, in their order.
* **`ListsReferences`**, **`listsReferences_iff`**: the list of the names, and that there is no other one.
-/

namespace DocCatalog.Extract

open Doc (Tag)
open Text (IsPiece)

/-! ## Mentions

A mention is a place in a comment: the tag, counted among all tags, and the number of the name in
its value. Mentions under one kind of tag come before those under the other. -/

/-- The tags that refer to something. -/
inductive Family where
  | related
  | see

/-- How the tags of a family are called. -/
def Family.tagName : Family → String
  | .related => "related"
  | .see => "see"

/-- A place where a name can stand: in a tag of that family, with its number among all tags, and behind
so many separators in its value. -/
structure Mention where
  family : Family
  tag : Nat
  piece : Nat

/-- All of `@related` goes before all of `@see`. Within a family, tags and names are in order. -/
inductive Mention.Before : Mention → Mention → Prop
  | family {i j k l : Nat} : Before ⟨.related, i, k⟩ ⟨.see, j, l⟩
  | tag {family : Family} {i j k l : Nat} (h : i < j) : Before ⟨family, i, k⟩ ⟨family, j, l⟩
  | piece {family : Family} {i k l : Nat} (h : k < l) : Before ⟨family, i, k⟩ ⟨family, i, l⟩

/-- Commas and line feeds separate names. -/
def separatesNames (c : Char) : Bool := c == ',' || c == '\n'

/-- The name stands in that place: it is what stands there between separators, without outer blanks. -/
inductive Names (tags : List Tag) : Mention → String → Prop
  | intro {family : Family} {i : Nat} {tag : Tag} {front piece back : List Char}
      (htag : tags[i]? = some tag) (hname : tag.name = family.tagName)
      (hvalue : tag.value.toList = front ++ piece ++ back)
      (hpiece : IsPiece separatesNames front piece back) (hne : Text.trim piece ≠ []) :
      Names tags ⟨family, i, front.countP separatesNames⟩ (String.ofList (Text.trim piece))

/-- The names are listed once each, in the order in which they are first mentioned. -/
structure ListsReferences (tags : List Tag) (names : List String) : Prop where
  distinct : names.Nodup
  mentioned : ∀ name, name ∈ names ↔ ∃ m, Names tags m name
  /-- There is a mention of the earlier name before all mentions of the later one. -/
  order : names.Pairwise fun a b => ∃ m, Names tags m a ∧ ∀ o, Names tags o b → m.Before o

variable {tags : List Tag} {name : String} {m : Mention} {family : Family}

/-- Of two mentions one is before the other, and not the other way round. -/
theorem Mention.Before.asymm {o : Mention} (h : m.Before o) : ¬ o.Before m := by
  cases h with
  | family => rintro ⟨⟩
  | tag hlt =>
      rintro (_ | hgt | _)
      · omega
      · omega
  | piece hlt =>
      rintro (_ | hgt | hgt)
      · omega
      · omega

/-! ## Keeping every element once

The program keeps an element when it is not among those that are kept. So the first of equal ones is
kept, and the order is that of first occurrences. -/

section Distinct

variable {α : Type} [BEq α] [LawfulBEq α] {xs : List α} {a b x : α}

omit [LawfulBEq α] in
/-- The last element is kept if no other is equal to it. -/
theorem distinct_concat (xs : List α) (x : α) :
    distinct (xs ++ [x]) = if (distinct xs).contains x then distinct xs else distinct xs ++ [x] := by
  rw [distinct, List.foldl_append]
  rfl

/-- No value is lost. -/
theorem mem_distinct : a ∈ distinct xs ↔ a ∈ xs := by
  induction xs using List.reverseRecOn with
  | nil => rfl
  | append_singleton xs x ih =>
      rw [distinct_concat, List.mem_append, List.mem_singleton, ← ih]
      split
      · next hmet =>
          rw [List.contains_iff_mem] at hmet
          exact ⟨Or.inl, Or.rec id fun h => h ▸ hmet⟩
      · rw [List.mem_append, List.mem_singleton]

/-- No value is kept twice. -/
theorem nodup_distinct (xs : List α) : (distinct xs).Nodup := by
  induction xs using List.reverseRecOn with
  | nil => exact List.nodup_nil
  | append_singleton xs x ih =>
      rw [distinct_concat]
      split
      · exact ih
      · next hnew =>
          rw [List.contains_iff_mem] at hnew
          exact List.nodup_append.mpr ⟨ih, List.pairwise_singleton _ x, fun a ha b hb hab =>
            hnew (List.mem_singleton.mp hb ▸ hab ▸ ha)⟩

/-- The first `a` stands in front of the first `b`, if there is any. -/
def FirstBefore (xs : List α) (a b : α) : Prop :=
  ∃ before after, xs = before ++ a :: after ∧ b ∉ before ++ [a]

omit [BEq α] [LawfulBEq α] in
/-- What comes later makes no difference to which of two comes first. -/
theorem FirstBefore.append (h : FirstBefore xs a b) (ys : List α) : FirstBefore (xs ++ ys) a b := by
  obtain ⟨before, after, rfl, hb⟩ := h
  exact ⟨before, after ++ ys, by rw [List.append_assoc, List.cons_append], hb⟩

omit [BEq α] [LawfulBEq α] in
/-- What is in a list comes before what is not. -/
theorem firstBefore_of_notMem (ha : a ∈ xs) (hb : b ∉ xs) : FirstBefore xs a b := by
  obtain ⟨before, after, rfl⟩ := List.append_of_mem ha
  refine ⟨before, after, rfl, fun h => hb ?_⟩
  rw [List.append_cons]
  exact List.mem_append_left after h

/-- **What is kept is in the order of first occurrences.** -/
theorem firstBefore_distinct (xs : List α) : (distinct xs).Pairwise (FirstBefore xs) := by
  induction xs using List.reverseRecOn with
  | nil => exact List.Pairwise.nil
  | append_singleton xs x ih =>
      have hkept := ih.imp fun h => h.append [x]
      rw [distinct_concat]
      split
      · exact hkept
      · next hnew =>
          rw [List.contains_iff_mem, mem_distinct] at hnew
          -- the last element is a new one, so the first `x` is behind all that is kept
          refine List.pairwise_append.mpr ⟨hkept, List.pairwise_singleton _ x, fun a ha b hb => ?_⟩
          rw [List.mem_singleton.mp hb]
          exact (firstBefore_of_notMem (mem_distinct.mp ha) hnew).append [x]

end Distinct

/-! ## All mentions

All places are listed with their names, in order. The names alone are what the program reads. -/

/-- The name that stands between two separators, if it is not blank. -/
def nameIn? (piece : List Char) : Option String :=
  if Text.trim piece = [] then none else some (String.ofList (Text.trim piece))

/-- The names in a value, each with its place. -/
def mentionsIn (family : Family) (i : Nat) (value : String) : List (Mention × String) :=
  (Text.splitWhere separatesNames value.toList).zipIdx.filterMap fun (piece, k) =>
    (nameIn? piece).map (⟨family, i, k⟩, ·)

/-- The names under the tags of a family, each with its place. -/
def mentionsUnder (family : Family) (tags : List Tag) : List (Mention × String) :=
  tags.zipIdx.flatMap fun t =>
    if t.1.name = family.tagName then mentionsIn family t.2 t.1.value else []

/-- All names, each with its place. -/
def mentionsOf (tags : List Tag) : List (Mention × String) :=
  mentionsUnder .related tags ++ mentionsUnder .see tags

/-- A piece is a name when it is not blank, without the blanks around it. -/
theorem nameIn?_eq_some {piece : List Char} :
    nameIn? piece = some name ↔ Text.trim piece ≠ [] ∧ String.ofList (Text.trim piece) = name := by
  rw [nameIn?]
  split
  · next h => simp [h]
  · next h => simp [h]

/-- The mentions in one value are its pieces that are not blank. -/
theorem mem_mentionsIn {i : Nat} {value : String} :
    (m, name) ∈ mentionsIn family i value ↔ ∃ front piece back,
      value.toList = front ++ piece ++ back ∧ IsPiece separatesNames front piece back
        ∧ Text.trim piece ≠ [] ∧ m = ⟨family, i, front.countP separatesNames⟩
        ∧ name = String.ofList (Text.trim piece) := by
  rw [mentionsIn, List.mem_filterMap]
  constructor
  · rintro ⟨⟨piece, k⟩, hk, hmention⟩
    obtain ⟨name, hname, heq⟩ := Option.map_eq_some_iff.mp hmention
    cases heq
    obtain ⟨hne, rfl⟩ := nameIn?_eq_some.mp hname
    obtain ⟨front, back, hvalue, hpiece, rfl⟩ :=
      Text.getElem?_splitWhere_iff.mp (List.mem_zipIdx_iff_getElem?.mp hk)
    exact ⟨front, piece, back, hvalue, hpiece, hne, rfl, rfl⟩
  · rintro ⟨front, piece, back, hvalue, hpiece, hne, rfl, rfl⟩
    refine ⟨(piece, front.countP separatesNames), ?_, ?_⟩
    · exact List.mem_zipIdx_iff_getElem?.mpr
        (Text.getElem?_splitWhere_iff.mpr ⟨front, back, hvalue, hpiece, rfl⟩)
    · exact Option.map_eq_some_iff.mpr ⟨_, nameIn?_eq_some.mpr ⟨hne, rfl⟩, rfl⟩

/-- The mentions under one kind of tag are those of this family. -/
theorem mem_mentionsUnder :
    (m, name) ∈ mentionsUnder family tags ↔ m.family = family ∧ Names tags m name := by
  rw [mentionsUnder, List.mem_flatMap]
  constructor
  · rintro ⟨⟨tag, i⟩, htag, hmention⟩
    split at hmention
    · next hname =>
        obtain ⟨front, piece, back, hvalue, hpiece, hne, rfl, rfl⟩ := mem_mentionsIn.mp hmention
        exact ⟨rfl, .intro (List.mem_zipIdx_iff_getElem?.mp htag) hname hvalue hpiece hne⟩
    · cases hmention
  · rintro ⟨rfl, ⟨htag, hname, hvalue, hpiece, hne⟩⟩
    refine ⟨(_, _), List.mem_zipIdx_iff_getElem?.mpr htag, ?_⟩
    rw [if_pos hname]
    exact mem_mentionsIn.mpr ⟨_, _, _, hvalue, hpiece, hne, rfl, rfl⟩

/-- **All mentions** are found. -/
theorem mem_mentionsOf : (m, name) ∈ mentionsOf tags ↔ Names tags m name := by
  rw [mentionsOf, List.mem_append, mem_mentionsUnder, mem_mentionsUnder, ← or_and_right]
  refine and_iff_right ?_
  cases m.family with
  | related => exact Or.inl rfl
  | see => exact Or.inr rfl

theorem ascending_zipIdx {α : Type} (xs : List α) : xs.zipIdx.Pairwise fun a b => a.2 < b.2 := by
  rw [← List.pairwise_map (f := Prod.snd), List.zipIdx_map_snd]
  exact List.pairwise_lt_range'

/-- The names in one value come in the order in which they stand. -/
theorem ascending_mentionsIn (family : Family) (i : Nat) (value : String) :
    (mentionsIn family i value).Pairwise fun a b => a.1.Before b.1 := by
  rw [mentionsIn, List.pairwise_filterMap]
  refine (ascending_zipIdx _).imp fun {a b} hlt x hx y hy => ?_
  obtain ⟨_, -, rfl⟩ := Option.map_eq_some_iff.mp hx
  obtain ⟨_, -, rfl⟩ := Option.map_eq_some_iff.mp hy
  exact .piece hlt

/-- Those in an earlier tag come before those in a later one. -/
theorem ascending_mentionsUnder (family : Family) (tags : List Tag) :
    (mentionsUnder family tags).Pairwise fun a b => a.1.Before b.1 := by
  rw [mentionsUnder, List.pairwise_flatMap]
  constructor
  · rintro ⟨tag, i⟩ -
    split
    · exact ascending_mentionsIn family i tag.value
    · exact List.Pairwise.nil
  · refine (ascending_zipIdx tags).imp fun {a b} hlt x hx y hy => ?_
    split at hx
    · split at hy
      · obtain ⟨_, _, _, -, -, -, hxplace, -⟩ := mem_mentionsIn.mp hx
        obtain ⟨_, _, _, -, -, -, hyplace, -⟩ := mem_mentionsIn.mp hy
        rw [hxplace, hyplace]
        exact .tag hlt
      · cases hy
    · cases hx

/-- **Mentions are read in their order.** -/
theorem ascending_mentionsOf (tags : List Tag) :
    (mentionsOf tags).Pairwise fun a b => a.1.Before b.1 := by
  refine List.pairwise_append.mpr ⟨ascending_mentionsUnder .related tags,
    ascending_mentionsUnder .see tags, ?_⟩
  rintro ⟨⟨_, i, k⟩, a⟩ ha ⟨⟨_, j, l⟩, b⟩ hb
  obtain ⟨rfl, -⟩ := mem_mentionsUnder.mp ha
  obtain ⟨rfl, -⟩ := mem_mentionsUnder.mp hb
  exact .family

/-- The names of some pieces are what is left of them without the blank ones. -/
theorem filterMap_nameIn? (pieces : List (List Char)) :
    pieces.filterMap nameIn? = ((pieces.map Text.trim).filter (!·.isEmpty)).map String.ofList := by
  induction pieces with
  | nil => rfl
  | cons piece pieces ih =>
      rw [List.map_cons]
      by_cases h : Text.trim piece = []
      · have hnone : nameIn? piece = none := if_pos h
        rw [List.filterMap_cons_none hnone, List.filter_cons_of_neg (by simp [h]), ih]
      · have hsome : nameIn? piece = some (String.ofList (Text.trim piece)) := if_neg h
        rw [List.filterMap_cons_some hsome, List.filter_cons_of_pos (by simpa using h), List.map_cons, ih]

/-- The names in a value are those that the program reads from it. -/
theorem map_snd_mentionsIn (family : Family) (i : Nat) (value : String) :
    (mentionsIn family i value).map Prod.snd = listedNames value := by
  have hsnd : ∀ t : List Char × Nat,
      ((nameIn? t.1).map ((⟨family, i, t.2⟩, ·) : String → Mention × String)).map Prod.snd
        = nameIn? t.1 := fun t => by rw [Option.map_map]; exact Option.map_id'
  have hpieces := List.filterMap_map (f := Prod.fst) (g := nameIn?)
    (l := (Text.splitWhere separatesNames value.toList).zipIdx)
  rw [List.zipIdx_map_fst, filterMap_nameIn?] at hpieces
  rw [mentionsIn, List.map_filterMap]
  simp only [hsnd]
  exact hpieces.symm

/-- Tags with another name give none. -/
theorem flatMap_listedNames_all (tags : List Tag) (tagName : String) :
    (Tag.all tags tagName).flatMap listedNames
      = tags.flatMap fun t => if t.name = tagName then listedNames t.value else [] := by
  induction tags with
  | nil => rfl
  | cons t tags ih =>
      rw [Tag.all] at ih ⊢
      rw [List.flatMap_cons, ← ih]
      by_cases h : t.name = tagName
      · rw [if_pos h, List.filter_cons_of_pos (by simp [h]), List.map_cons, List.flatMap_cons]
      · rw [if_neg h, List.filter_cons_of_neg (by simp [h]), List.nil_append]

/-- The names under one kind of tag are those that the program reads. -/
theorem map_snd_mentionsUnder (family : Family) (tags : List Tag) :
    (mentionsUnder family tags).map Prod.snd
      = (Tag.all tags family.tagName).flatMap listedNames := by
  have htags := List.flatMap_map Prod.fst
    (fun t : Tag => if t.name = family.tagName then listedNames t.value else []) tags.zipIdx
  rw [List.zipIdx_map_fst] at htags
  rw [flatMap_listedNames_all, htags, mentionsUnder, List.map_flatMap]
  refine List.flatMap_congr fun t _ => ?_
  split
  · exact map_snd_mentionsIn family t.2 t.1.value
  · rfl

/-- The names in the order in which they are read. -/
theorem relatedNames_eq (tags : List Tag) :
    relatedNames tags = distinct ((mentionsOf tags).map Prod.snd) := by
  rw [relatedNames, mentionsOf, List.map_append, map_snd_mentionsUnder, map_snd_mentionsUnder,
    List.flatMap_append]
  rfl

/-- A name is among them if it is mentioned somewhere. -/
theorem mem_map_mentionsOf : name ∈ (mentionsOf tags).map Prod.snd ↔ ∃ m, Names tags m name := by
  rw [List.mem_map]
  constructor
  · rintro ⟨⟨m, name⟩, h, rfl⟩
    exact ⟨m, mem_mentionsOf.mp h⟩
  · rintro ⟨m, h⟩
    exact ⟨(m, name), mem_mentionsOf.mpr h, rfl⟩

/-- What is first among the names is mentioned first. -/
theorem exists_mention_of_firstBefore {a b : String}
    (h : FirstBefore ((mentionsOf tags).map Prod.snd) a b) :
    ∃ m, Names tags m a ∧ ∀ o, Names tags o b → m.Before o := by
  obtain ⟨before, after, hsplit, hb⟩ := h
  obtain ⟨front, rest, hmentions, rfl, hrest⟩ := List.map_eq_append_iff.mp hsplit
  obtain ⟨⟨m, a⟩, back, rfl, rfl, rfl⟩ := List.map_eq_cons_iff.mp hrest
  refine ⟨m, mem_mentionsOf.mp (hmentions ▸ List.mem_append_right front List.mem_cons_self), ?_⟩
  intro o ho
  have hascending := ascending_mentionsOf tags
  have hmem := mem_mentionsOf.mpr ho
  rw [hmentions] at hascending hmem
  -- a mention of `b` is not in front of the one of `a`, nor is it that one itself
  rcases List.mem_append.mp hmem with hfront | hmem
  · exact absurd (List.mem_append_left _ (List.mem_map_of_mem hfront)) hb
  · rcases List.mem_cons.mp hmem with heq | hback
    · exact absurd (List.mem_append_right _ (List.mem_singleton.mpr (congrArg Prod.snd heq))) hb
    · exact (List.pairwise_cons.mp (List.pairwise_append.mp hascending).2.1).1 _ hback

/-- **The program lists** each name that is mentioned, in the order of first mentions. -/
theorem listsReferences_relatedNames (tags : List Tag) :
    ListsReferences tags (relatedNames tags) := by
  rw [relatedNames_eq]
  refine ⟨nodup_distinct _, fun name => ?_, ?_⟩
  · rw [mem_distinct, mem_map_mentionsOf]
  · exact (firstBefore_distinct _).imp exists_mention_of_firstBefore

/-- There is one list of the kind. -/
theorem ListsReferences.unique {names others : List String} (h : ListsReferences tags names)
    (hothers : ListsReferences tags others) : names = others := by
  have hperm : names.Perm others := (List.perm_ext_iff_of_nodup h.distinct hothers.distinct).mpr
    fun name => (h.mentioned name).trans (hothers.mentioned name).symm
  refine List.Perm.eq_of_pairwise ?_ h.order hothers.order hperm
  -- of two names that change places, each would be mentioned before the other
  rintro a b - - ⟨m, hm, hbehind⟩ ⟨o, ho, hbefore⟩
  exact absurd (hbefore m hm) (hbehind o ho).asymm

/-- **The names that a comment refers to** are listed once each, in the order of their first mentions. -/
theorem listsReferences_iff (tags : List Tag) (names : List String) :
    ListsReferences tags names ↔ names = relatedNames tags := by
  refine ⟨fun h => h.unique (listsReferences_relatedNames tags), ?_⟩
  rintro rfl
  exact listsReferences_relatedNames tags

/-- What stands under `@related` goes first, and a name that comes again stays where it was. -/
example : relatedNames [⟨"see", "b, a"⟩, ⟨"related", "a ,\n,c  d"⟩, ⟨"see", "c  d,e"⟩]
    = ["a", "c  d", "b", "e"] := by decide

end DocCatalog.Extract
