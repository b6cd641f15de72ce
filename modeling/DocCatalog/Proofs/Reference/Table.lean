import DocCatalog.Proofs.Reference.Gathering
import Mathlib.Data.List.Forall2
import Mathlib.Data.List.TakeWhile
import Mathlib.Logic.Relation

/-!
# The table of packages

The packages are described by a table in one section of the reference. Of the rows of a tier only the
first one counts, so that most of what can be written into the text leaves the packages as they are.

* **`IsSection`**, **`IsSectionOf`**: the section, from its heading to the next one.
* **`IsTableLine`**, **`IsBodyRow`**, **`gathers_bodyRows`**: the rows behind the first line of the table.
* **`IsOf`**: the tier that a row is one of.
* **`IsPackage`**: the package of a tier, by the rows.
* **`Idle`**, **`Edit`**, **`packagesIn_edits`**: edits that change nothing.
* **`packages_tabulated`**: the packages of a text, and of all texts that such edits lead to.
-/

namespace DocCatalog.Reference

/-! ## Sections

The section begins at the first heading that speaks of package scripts and ends before the next
heading, or with the text. -/

/-- The line is a heading of the second level that ends with the title of the section. -/
def HeadsPackages (line : List Char) : Prop :=
  ∃ blanks title, Text.IsBlanks blanks
    ∧ Text.trim line = ['#', '#'] ++ blanks ++ title ++ "Package Scripts".toList

/-- The section lies between the first heading of its kind and the next heading, or the end. -/
structure IsSection (lines before : List (List Char)) (heading : List Char)
    (inside behind : List (List Char)) : Prop where
  lines : lines = before ++ heading :: (inside ++ behind)
  first : ∀ l ∈ before, ¬ HeadsPackages l
  heading : HeadsPackages heading
  inside : ∀ l ∈ inside, ¬ IsHeadingLine l
  ends : ∀ l ∈ behind.head?, IsHeadingLine l

/-- The lines of the section, or none if there is no section. -/
inductive IsSectionOf (lines : List (List Char)) : List (List Char) → Prop
  | found {before inside behind : List (List Char)} {heading : List Char}
      (h : IsSection lines before heading inside behind) : IsSectionOf lines inside
  | none (h : ∀ l ∈ lines, ¬ HeadsPackages l) : IsSectionOf lines []

/-- The title is looked at without regard to the blanks around it. -/
theorem isPackageHeading_iff {line : List Char} :
    isPackageHeading (Text.trim line) = true ↔ HeadsPackages line := by
  constructor
  · intro h
    unfold isPackageHeading at h
    split at h
    · next c r hline =>
        rw [Bool.and_eq_true, List.isSuffixOf_iff_suffix] at h
        obtain ⟨hblank, title, rfl⟩ := h
        -- one blank is enough, as the title may begin with others
        refine ⟨[c], title, ⟨List.cons_ne_nil c [], ?_⟩, by rw [hline]; simp⟩
        rintro x hx
        rw [List.mem_singleton.mp hx]
        exact hblank
    · cases h
  · rintro ⟨blanks, title, hblanks, hline⟩
    obtain ⟨c, blanks, rfl⟩ := List.exists_cons_of_ne_nil hblanks.ne_nil
    have hc := hblanks.blank c List.mem_cons_self
    rw [hline]
    show (Text.isBlank c && "Package Scripts".toList.isSuffixOf
      (blanks ++ title ++ "Package Scripts".toList)) = true
    rw [Bool.and_eq_true, List.isSuffixOf_iff_suffix]
    exact ⟨hc, List.suffix_append _ _⟩

instance : DecidablePred HeadsPackages := fun _ => decidable_of_iff _ isPackageHeading_iff

theorem not_isPackageHeading_iff {line : List Char} :
    (!isPackageHeading (Text.trim line)) = true ↔ ¬ HeadsPackages line := by
  rw [Bool.not_eq_true', Bool.eq_false_iff, Ne, isPackageHeading_iff]

/-- Any heading ends the section. -/
theorem isHeading_iff {line : List Char} : isHeading line = true ↔ IsHeadingLine line := by
  have hlast : ∀ c ∈ ['#', '#'].getLast?, Text.isBlank c = false := by
    rintro c ⟨⟩
    rfl
  rw [isHeading, List.isPrefixOf_iff_prefix, IsHeadingLine, Text.prefix_trim_iff hlast]

theorem not_isHeading_iff {line : List Char} : (!isHeading line) = true ↔ ¬ IsHeadingLine line := by
  rw [Bool.not_eq_true', Bool.eq_false_iff, Ne, isHeading_iff]

/-- What the program takes for the section is the section. -/
theorem sectionLines?_eq_some {lines before inside behind : List (List Char)} {heading : List Char}
    (h : IsSection lines before heading inside behind) : sectionLines? lines = some inside := by
  have hbefore : ∀ l ∈ before, (!isPackageHeading (Text.trim l)) = true :=
    fun l hl => not_isPackageHeading_iff.mpr (h.first l hl)
  have hdrop : lines.dropWhile (fun l => !isPackageHeading (Text.trim l))
      = heading :: (inside ++ behind) := by
    rw [h.lines, Text.dropWhile_append_stop hbefore]
    rintro l ⟨⟩
    rw [isPackageHeading_iff.mpr h.heading]
    rfl
  have htake : (inside ++ behind).takeWhile (!isHeading ·) = inside := by
    refine Text.takeWhile_append_stop (fun l hl => ?_) fun l hl => ?_
    · exact not_isHeading_iff.mpr (h.inside l hl)
    · rw [isHeading_iff.mpr (h.ends l hl)]
      rfl
  rw [sectionLines?, hdrop]
  exact congrArg some htake

/-- Without such a heading there is none. -/
theorem sectionLines?_eq_none {lines : List (List Char)} (h : ∀ l ∈ lines, ¬ HeadsPackages l) :
    sectionLines? lines = none := by
  have hdrop : lines.dropWhile (fun l => !isPackageHeading (Text.trim l)) = [] := by
    rw [List.dropWhile_eq_nil_iff]
    exact fun l hl => not_isPackageHeading_iff.mpr (h l hl)
  rw [sectionLines?, hdrop]

/-- Lines go up to the next heading, or to the end. -/
theorem exists_heading (lines : List (List Char)) :
    ∃ inside behind, lines = inside ++ behind ∧ (∀ l ∈ inside, ¬ IsHeadingLine l)
      ∧ ∀ l ∈ behind.head?, IsHeadingLine l := by
  cases hfind : lines.find? isHeading with
  | none =>
      refine ⟨lines, [], (List.append_nil lines).symm, fun l hl hline => ?_, nofun⟩
      exact List.find?_eq_none.mp hfind l hl (isHeading_iff.mpr hline)
  | some next =>
      obtain ⟨hnext, inside, behind, rfl, hinside⟩ := List.find?_eq_some_iff_append.mp hfind
      refine ⟨inside, next :: behind, rfl, fun l hl => not_isHeading_iff.mp (hinside l hl), ?_⟩
      rintro l ⟨⟩
      exact isHeading_iff.mp hnext

/-- The lines have the section, or they have none. -/
theorem exists_isSection (lines : List (List Char)) :
    (∀ l ∈ lines, ¬ HeadsPackages l)
      ∨ ∃ before heading inside behind, IsSection lines before heading inside behind := by
  cases hfind : lines.find? fun l => isPackageHeading (Text.trim l) with
  | none =>
      refine Or.inl fun l hl hline => ?_
      exact List.find?_eq_none.mp hfind l hl (isPackageHeading_iff.mpr hline)
  | some heading =>
      obtain ⟨hheading, before, rest, rfl, hbefore⟩ := List.find?_eq_some_iff_append.mp hfind
      obtain ⟨inside, behind, rfl, hinside, hends⟩ := exists_heading rest
      refine Or.inr ⟨before, heading, inside, behind, rfl, fun l hl => ?_, ?_, hinside, hends⟩
      · exact not_isPackageHeading_iff.mp (hbefore l hl)
      · exact isPackageHeading_iff.mp hheading

/-- **The section is what stands there**, or nothing if there is no heading for it. -/
theorem isSectionOf_sectionLines (lines : List (List Char)) :
    IsSectionOf lines ((sectionLines? lines).getD []) := by
  rcases exists_isSection lines with hnone | ⟨before, heading, inside, behind, hsection⟩
  · rw [sectionLines?_eq_none hnone]
    exact .none hnone
  · rw [sectionLines?_eq_some hsection]
    exact .found hsection

/-! ## Rows

Of the lines of a table the first one is its head. Every line behind it that has enough cells is a
row. -/

/-- The line begins with a bar, and is no rule between rows. -/
def IsTableLine (line : List Char) : Prop :=
  ['|'] <+: Text.trim line ∧ ¬ ['-', '-', '-'] <:+: Text.trim line

/-- The line has three cells at least, and these are the row. -/
def ReadsRow (line : List Char) (row : Row) : Prop :=
  ∃ script adds description more, cellsOf (Text.trim line) = script :: adds :: description :: more
    ∧ row = ⟨dropBackticks script, dropBackticks adds, description⟩

/-- The line is a row of the table, and stands below its head. -/
structure IsBodyRow (before : List (List Char)) (line : List Char) (row : Row) : Prop where
  table : IsTableLine line
  head : ∃ l ∈ before, IsTableLine l
  cells : ReadsRow line row

/-- Lines of a table begin with a bar and do not draw a rule. -/
theorem isRow_iff {line : List Char} : isRow (Text.trim line) = true ↔ IsTableLine line := by
  rw [isRow, Bool.and_eq_true, Bool.not_eq_true', Bool.eq_false_iff, Ne, Text.contains_iff, beq_iff_eq,
    IsTableLine, List.head?_eq_some_iff]
  exact and_congr_left fun _ => exists_congr fun _ => eq_comm

instance : DecidablePred IsTableLine := fun _ => decidable_of_iff _ isRow_iff

/-- A row is read from the first three cells, and further ones do not matter. -/
theorem rowOf?_eq_some_iff {line : List Char} {row : Row} :
    rowOf? (Text.trim line) = some row ↔ ReadsRow line row := by
  unfold rowOf? ReadsRow
  split
  · next script adds description more hcells =>
      constructor
      · rintro ⟨⟩
        exact ⟨script, adds, description, more, hcells, rfl⟩
      · rintro ⟨_, _, _, _, hcells', rfl⟩
        rw [hcells] at hcells'
        cases hcells'
        rfl
  · next hnone =>
      constructor
      · intro h
        cases h
      · rintro ⟨script, adds, description, more, hcells, -⟩
        exact absurd hcells (hnone script adds description more)

/-- With fewer cells there is no row. -/
theorem rowOf?_eq_none {line : List Char} (h : (cellsOf (Text.trim line)).length < 3) :
    rowOf? (Text.trim line) = none := by
  cases hrow : rowOf? (Text.trim line) with
  | none => rfl
  | some row =>
      obtain ⟨script, adds, description, more, hcells, -⟩ := rowOf?_eq_some_iff.mp hrow
      rw [hcells] at h
      simp only [List.length_cons] at h
      omega

/-- The rows that lines hold below the head of their table. -/
def rowsIn (lines : List (List Char)) : List Row :=
  ((lines.map Text.trim).filter isRow).filterMap rowOf?

theorem rowsIn_append (lines more : List (List Char)) :
    rowsIn (lines ++ more) = rowsIn lines ++ rowsIn more := by
  rw [rowsIn, List.map_append, List.filter_append, List.filterMap_append]
  rfl

/-- A line of no table gives none. -/
theorem rowsIn_cons_of_not {line : List Char} (h : ¬ IsTableLine line) (lines : List (List Char)) :
    rowsIn (line :: lines) = rowsIn lines := by
  rw [rowsIn, List.map_cons, List.filter_cons_of_neg (mt isRow_iff.mp h)]
  rfl

/-- A line of a table gives at most one. -/
theorem rowsIn_cons {line : List Char} (h : IsTableLine line) (lines : List (List Char)) :
    rowsIn (line :: lines) = (rowOf? (Text.trim line)).toList ++ rowsIn lines := by
  rw [rowsIn, List.map_cons, List.filter_cons_of_pos (isRow_iff.mpr h), List.filterMap_cons]
  cases rowOf? (Text.trim line) <;> rfl

/-- The head is looked for behind lines of no table. -/
theorem bodyRows_cons_of_not {line : List Char} (h : ¬ IsTableLine line) (lines : List (List Char)) :
    bodyRows (line :: lines) = bodyRows lines := by
  rw [bodyRows, List.map_cons, List.filter_cons_of_neg (mt isRow_iff.mp h)]
  rfl

/-- The first line of a table is its head. -/
theorem bodyRows_cons {line : List Char} (h : IsTableLine line) (lines : List (List Char)) :
    bodyRows (line :: lines) = rowsIn lines := by
  rw [bodyRows, List.map_cons, List.filter_cons_of_pos (isRow_iff.mpr h)]
  rfl

/-- Below the head, rows are read line by line. -/
theorem bodyRows_append {upper : List (List Char)} (h : ∃ l ∈ upper, IsTableLine l)
    (lower : List (List Char)) : bodyRows (upper ++ lower) = bodyRows upper ++ rowsIn lower := by
  induction upper with
  | nil =>
      obtain ⟨l, hl, -⟩ := h
      cases hl
  | cons line upper ih =>
      rw [List.cons_append]
      by_cases hline : IsTableLine line
      · rw [bodyRows_cons hline, bodyRows_cons hline, rowsIn_append]
      · obtain ⟨l, hl, htable⟩ := h
        rcases List.mem_cons.mp hl with rfl | hl
        · exact absurd htable hline
        · rw [bodyRows_cons_of_not hline, bodyRows_cons_of_not hline]
          exact ih ⟨l, hl, htable⟩

/-- Behind the head every line that is a row is gathered. -/
theorem gathers_rowsIn {before : List (List Char)} (h : ∃ l ∈ before, IsTableLine l)
    (lines : List (List Char)) :
    Gathers (fun before line _ row => IsBodyRow before line row) before lines (rowsIn lines) := by
  induction lines generalizing before with
  | nil => exact .nil
  | cons line lines ih =>
      obtain ⟨l, hl, htable⟩ := h
      have hrest := ih ⟨l, List.mem_append_left [line] hl, htable⟩
      by_cases hline : IsTableLine line
      · rw [rowsIn_cons hline]
        cases hrow : rowOf? (Text.trim line) with
        | some row => exact .made ⟨hline, ⟨l, hl, htable⟩, rowOf?_eq_some_iff.mp hrow⟩ hrest
        | none =>
            refine .silent (fun row hmade => ?_) hrest
            rw [rowOf?_eq_some_iff.mpr hmade.cells] at hrow
            cases hrow
      · rw [rowsIn_cons_of_not hline]
        exact .silent (fun row hmade => hline hmade.table) hrest

/-- **Body rows are gathered** behind the head of the table. -/
theorem gathers_bodyRows {before : List (List Char)} (h : ∀ l ∈ before, ¬ IsTableLine l)
    (lines : List (List Char)) :
    Gathers (fun before line _ row => IsBodyRow before line row) before lines (bodyRows lines) := by
  induction lines generalizing before with
  | nil => exact .nil
  | cons line lines ih =>
      have hsilent : ∀ row, ¬ IsBodyRow before line row := by
        rintro row ⟨-, ⟨l, hl, htable⟩, -⟩
        exact h l hl htable
      by_cases hline : IsTableLine line
      · rw [bodyRows_cons hline]
        exact .silent hsilent (gathers_rowsIn ⟨line, by simp, hline⟩ lines)
      · rw [bodyRows_cons_of_not hline]
        refine .silent hsilent (ih fun l hl => ?_)
        rcases List.mem_append.mp hl with hl | hl
        · exact h l hl
        · rw [List.mem_singleton.mp hl]
          exact hline

/-! ## Tiers

Which package a row is about is said by what it runs and what it adds. The tests are made in a fixed
order, so that a row is of one tier at most. -/

/-- The row speaks of the full package. -/
def NamesFull (row : Row) : Prop :=
  "crud:full".toList <:+: row.script ∨ "--package full".toList <:+: row.adds

/-- The row speaks of the import. -/
def NamesImport (row : Row) : Prop :=
  "crud:import".toList <:+: row.script ∨ "--with-import".toList <:+: row.adds

/-- The row speaks of the events. -/
def NamesEvents (row : Row) : Prop :=
  "crud:events".toList <:+: row.script ∨ "--with-events".toList <:+: row.adds

/-- The row is one of the tier: the largest tier that is named counts, and the smallest one is not named
with the flag for events. -/
inductive IsOf (row : Row) : Tier → Prop
  | full (h : NamesFull row) : IsOf row .full
  | enterprise (hfull : ¬ NamesFull row) (h : NamesImport row) : IsOf row .enterprise
  | standard (hfull : ¬ NamesFull row) (himport : ¬ NamesImport row) (hevents : ¬ NamesEvents row)
      (h : row.script = "pnpm run crud -- TABLE".toList) : IsOf row .standard

/-- The tier is found by these tests in this order. -/
theorem tierOf?_eq_some_iff {row : Row} {tier : Tier} : tierOf? row = some tier ↔ IsOf row tier := by
  have hnamed : ∀ {script adds : String},
      (Text.contains script.toList row.script || Text.contains adds.toList row.adds) = true
        ↔ (script.toList <:+: row.script ∨ adds.toList <:+: row.adds) := fun {script adds} => by
    rw [Bool.or_eq_true, Text.contains_iff, Text.contains_iff]
  rw [tierOf?]
  beta_reduce
  constructor
  · -- the tests are made in the order in which the tiers exclude each other
    intro h
    split at h
    · next hfull =>
        cases h
        exact .full (hnamed.mp hfull)
    · next hfull =>
        split at h
        · next himport =>
            cases h
            exact .enterprise (mt hnamed.mpr hfull) (hnamed.mp himport)
        · next himport =>
            split at h
            · cases h
            · next hevents =>
                split at h
                · next hscript =>
                    cases h
                    exact .standard (mt hnamed.mpr hfull) (mt hnamed.mpr himport) (mt hnamed.mpr hevents)
                      (beq_iff_eq.mp hscript)
                · cases h
  · rintro (hfull | ⟨hfull, himport⟩ | ⟨hfull, himport, hevents, hscript⟩)
    · exact if_pos (hnamed.mpr hfull)
    · rw [if_neg (mt hnamed.mp hfull)]
      exact if_pos (hnamed.mpr himport)
    · rw [if_neg (mt hnamed.mp hfull), if_neg (mt hnamed.mp himport), if_neg (mt hnamed.mp hevents)]
      exact if_pos (beq_iff_eq.mpr hscript)

theorem tierOf?_beq_iff {row : Row} {tier : Tier} : (tierOf? row == some tier) = true ↔ IsOf row tier := by
  rw [beq_iff_eq, tierOf?_eq_some_iff]

/-- A row is of one tier only. -/
theorem IsOf.unique {row : Row} {tier tier' : Tier} (h : IsOf row tier) (h' : IsOf row tier') :
    tier = tier' :=
  Option.some.inj ((tierOf?_eq_some_iff.mpr h).symm.trans (tierOf?_eq_some_iff.mpr h'))

/-! ## Packages

The package of a tier is the first row of this tier, or a default. -/

/-- The package of the tier: the first row of the tier describes it, and without one what is known of
the tier. -/
inductive IsPackage (rows : List Row) (tier : Tier) : PackageInfo → Prop
  | listed {earlier later : List Row} {row : Row} (hrows : rows = earlier ++ row :: later)
      (hrow : IsOf row tier) (hfirst : ∀ r ∈ earlier, ¬ IsOf r tier) :
      IsPackage rows tier (package tier (String.ofList row.description) (String.ofList row.script))
  | generic (h : ∀ r ∈ rows, ¬ IsOf r tier) :
      IsPackage rows tier (package tier tier.description tier.script)

/-- The first row is found, and nothing is asked of those behind it. -/
theorem isPackage_packageOf (rows : List Row) (tier : Tier) :
    IsPackage rows tier (packageOf rows tier) := by
  rw [packageOf, rowFor?]
  cases hfind : rows.find? fun row => tierOf? row == some tier with
  | some row =>
      obtain ⟨hrow, earlier, later, hrows, hfirst⟩ := List.find?_eq_some_iff_append.mp hfind
      refine .listed hrows (tierOf?_beq_iff.mp hrow) fun r hr hof => ?_
      have hnot := hfirst r hr
      rw [tierOf?_beq_iff.mpr hof] at hnot
      cases hnot
  | none => exact .generic fun r hr hof => List.find?_eq_none.mp hfind r hr (tierOf?_beq_iff.mpr hof)

theorem forall₂_isPackage (rows : List Row) (tiers : List Tier) :
    List.Forall₂ (IsPackage rows) tiers (tiers.map (packageOf rows)) :=
  List.forall₂_map_right_iff.mpr (List.forall₂_same.mpr fun tier _ => isPackage_packageOf rows tier)

/-- The name of a package is that of its tier, whatever the row says. -/
theorem packageOf_name (rows : List Row) (tier : Tier) : (packageOf rows tier).name = tier.name := by
  rw [packageOf]
  cases rowFor? rows tier <;> rfl

/-- A row that is of no tier, or of one with an earlier row, is passed over. -/
theorem rowFor?_insert {rows : List Row} {row : Row} {tier : Tier}
    (h : IsOf row tier → ∃ r ∈ rows, IsOf r tier) (more : List Row) :
    rowFor? (rows ++ row :: more) tier = rowFor? (rows ++ more) tier := by
  rw [rowFor?, rowFor?, List.find?_append, List.find?_append]
  by_cases hrow : IsOf row tier
  · obtain ⟨r, hr, hof⟩ := h hrow
    have hfound : (rows.find? fun row => tierOf? row == some tier).isSome :=
      List.find?_isSome.mpr ⟨r, hr, tierOf?_beq_iff.mpr hof⟩
    rw [Option.or_of_isSome hfound, Option.or_of_isSome hfound]
  · have hnot : ¬ (tierOf? row == some tier) = true := mt tierOf?_beq_iff.mp hrow
    rw [List.find?_cons_of_neg (p := fun row => tierOf? row == some tier) hnot]

/-! ## Edits

An edit puts a line into the section that decides nothing, as it is no row, has no tier, or stands
behind another row of its tier. Or it changes what stands around the section. -/

/-- Behind the lines `upper` of the section, the line does not bear on the packages. -/
inductive Idle (upper : List (List Char)) (line : List Char) : Prop
  | prose (hheading : ¬ IsHeadingLine line) (htable : ¬ IsTableLine line)
  | short (htable : IsTableLine line) (hcells : (cellsOf (Text.trim line)).length < 3)
  | untiered {row : Row} (htable : IsTableLine line) (hrow : ReadsRow line row)
      (hnone : ∀ tier, ¬ IsOf row tier)
  /-- An earlier row is of the same tier. -/
  | repeated {row earlier : Row} {tier : Tier} {u v : List (List Char)} {l : List Char}
      (htable : IsTableLine line) (hrow : ReadsRow line row) (hof : IsOf row tier)
      (hupper : upper = u ++ l :: v) (hbody : IsBodyRow u l earlier) (hearlier : IsOf earlier tier)

/-- Lines and what an edit makes of them. -/
inductive Edit : List (List Char) → List (List Char) → Prop
  /-- A line is put into the section, below the head of the table. -/
  | insert {lines before upper lower behind : List (List Char)} {heading line : List Char}
      (hsection : IsSection lines before heading (upper ++ lower) behind)
      (hhead : ∃ l ∈ upper, IsTableLine l) (hidle : Idle upper line) :
      Edit lines (before ++ heading :: ((upper ++ line :: lower) ++ behind))
  /-- What stands around the section changes. -/
  | around {lines lines' before before' inside behind behind' : List (List Char)}
      {heading heading' : List Char} (h : IsSection lines before heading inside behind)
      (h' : IsSection lines' before' heading' inside behind') : Edit lines lines'

/-- The packages that lines list. -/
def packagesIn (lines : List (List Char)) : List PackageInfo :=
  Tier.all.map (packageOf (bodyRows ((sectionLines? lines).getD [])))

/-- The packages of a text are those of its lines. -/
theorem packages_parse (text : String) :
    (QuickReference.parse text).packages = packagesIn (Text.lines text.toList) := by
  rw [packagesIn, QuickReference.packages, QuickReference.parse]
  cases sectionLines? (Text.lines text.toList) <;> rfl

theorem packagesIn_eq {lines before inside behind : List (List Char)} {heading : List Char}
    (h : IsSection lines before heading inside behind) :
    packagesIn lines = Tier.all.map (packageOf (bodyRows inside)) := by
  rw [packagesIn, sectionLines?_eq_some h]
  rfl

/-- A table line begins with a bar, a heading does not. -/
theorem IsTableLine.not_heading {line : List Char} (h : IsTableLine line) : ¬ IsHeadingLine line := by
  obtain ⟨⟨rest, hbar⟩, -⟩ := h
  rintro ⟨rest', hsharp⟩
  rw [← hbar] at hsharp
  cases hsharp

/-- An idle line does not end the section. -/
theorem Idle.not_heading {upper : List (List Char)} {line : List Char} (h : Idle upper line) :
    ¬ IsHeadingLine line := by
  cases h with
  | prose hheading _ => exact hheading
  | short htable _ => exact htable.not_heading
  | untiered htable _ _ => exact htable.not_heading
  | repeated htable _ _ _ _ _ => exact htable.not_heading

/-- A row behind the head is a row of the table. -/
theorem IsBodyRow.mem_bodyRows {u : List (List Char)} {l : List Char} {row : Row}
    (h : IsBodyRow u l row) (v : List (List Char)) : row ∈ bodyRows (u ++ l :: v) := by
  rw [bodyRows_append h.head, rowsIn_cons h.table, rowOf?_eq_some_iff.mpr h.cells]
  simp

/-- **An idle line is passed over.** -/
theorem Idle.rowFor?_eq {upper : List (List Char)} {line : List Char} (h : Idle upper line)
    (hhead : ∃ l ∈ upper, IsTableLine l) (lower : List (List Char)) (tier : Tier) :
    rowFor? (bodyRows (upper ++ line :: lower)) tier = rowFor? (bodyRows (upper ++ lower)) tier := by
  rw [bodyRows_append hhead, bodyRows_append hhead]
  cases h with
  | prose _ htable => rw [rowsIn_cons_of_not htable]
  | short htable hcells =>
      rw [rowsIn_cons htable, rowOf?_eq_none hcells]
      rfl
  | untiered htable hrow hnone =>
      rw [rowsIn_cons htable, rowOf?_eq_some_iff.mpr hrow]
      exact rowFor?_insert (fun hof => absurd hof (hnone tier)) _
  | repeated htable hrow hof hupper hbody hearlier =>
      rw [rowsIn_cons htable, rowOf?_eq_some_iff.mpr hrow]
      refine rowFor?_insert (fun hof' => ?_) _
      rw [hupper, hof'.unique hof]
      exact ⟨_, hbody.mem_bodyRows _, hearlier⟩

/-- The section is still one with a line in it that is no heading. -/
theorem IsSection.insert {lines before upper lower behind : List (List Char)}
    {heading line : List Char} (h : IsSection lines before heading (upper ++ lower) behind)
    (hline : ¬ IsHeadingLine line) :
    IsSection (before ++ heading :: ((upper ++ line :: lower) ++ behind)) before heading
      (upper ++ line :: lower) behind := by
  refine ⟨rfl, h.first, h.heading, fun l hl => ?_, h.ends⟩
  rcases List.mem_append.mp hl with hl | hl
  · exact h.inside l (List.mem_append_left lower hl)
  rcases List.mem_cons.mp hl with rfl | hl
  · exact hline
  · exact h.inside l (List.mem_append_right upper hl)

/-- **An edit keeps the packages.** -/
theorem packagesIn_edit {lines lines' : List (List Char)} (h : Edit lines lines') :
    packagesIn lines' = packagesIn lines := by
  cases h with
  | insert hsection hhead hidle =>
      rw [packagesIn_eq (hsection.insert hidle.not_heading), packagesIn_eq hsection]
      refine List.map_congr_left fun tier _ => ?_
      rw [packageOf, packageOf, hidle.rowFor?_eq hhead]
  | around h h' => rw [packagesIn_eq h, packagesIn_eq h']

/-- **Edits keep the packages**, those that were made and those that were taken back. -/
theorem packagesIn_edits {lines lines' : List (List Char)} (h : Relation.EqvGen Edit lines lines') :
    packagesIn lines' = packagesIn lines := by
  induction h with
  | rel lines lines' hedit => exact packagesIn_edit hedit
  | refl lines => rfl
  | symm lines lines' _ ih => exact ih.symm
  | trans lines mid lines' _ _ ih ih' => exact ih'.trans ih

/-- **Packages are tabulated.** They are those of the three tiers in their order, each described by the
first row of its tier. So they stay as they are while lines that do not bear on them are put into the
table or taken out of it, and while the text around the section changes. -/
theorem packages_tabulated (text : String) :
    (QuickReference.parse text).packages.map (·.name) = ["standard", "enterprise", "full"]
      ∧ (∃ inside rows, IsSectionOf (Text.lines text.toList) inside
          ∧ Gathers (fun before line _ row => IsBodyRow before line row) [] inside rows
          ∧ List.Forall₂ (IsPackage rows) [.standard, .enterprise, .full]
            (QuickReference.parse text).packages)
      ∧ ∀ text', Relation.EqvGen Edit (Text.lines text.toList) (Text.lines text'.toList) →
          (QuickReference.parse text').packages = (QuickReference.parse text).packages := by
  rw [packages_parse]
  refine ⟨?_, ⟨_, _, isSectionOf_sectionLines _, gathers_bodyRows (by simp) _, ?_⟩, fun text' h => ?_⟩
  · rw [packagesIn, List.map_map]
    exact List.map_congr_left fun tier _ => packageOf_name _ tier
  · exact forall₂_isPackage _ Tier.all
  · rw [packages_parse]
    exact packagesIn_edits h

/-- A table with one tier. -/
def tableText : String :=
  "# CLI\n## Package Scripts\n| Script | Adds | About |\n|---|---|---|\n"
    ++ "| \x60pnpm run crud -- TABLE\x60 | - | Plain |\n"

/-- The same table with a row for events, and with other text around it. -/
def eventsText : String :=
  "## 2. Package Scripts\n| Script | Adds | About |\n|---|---|---|\n"
    ++ "| - | \x60--with-events\x60 | Live |\n| \x60pnpm run crud -- TABLE\x60 | - | Plain |\n## Notes\n"

/-- Neither the row for events nor the text around the table bears on the packages. -/
theorem packages_tabulated_events :
    Relation.EqvGen Edit (Text.lines tableText.toList) (Text.lines eventsText.toList)
      ∧ (QuickReference.parse eventsText).packages = (QuickReference.parse tableText).packages := by
  have hsection : IsSection (Text.lines tableText.toList) ["# CLI".toList] "## Package Scripts".toList
      (["| Script | Adds | About |".toList, "|---|---|---|".toList]
        ++ ["| \x60pnpm run crud -- TABLE\x60 | - | Plain |".toList]) [] :=
    ⟨by decide, by decide, by decide, by decide, nofun⟩
  have hrow : ReadsRow "| - | \x60--with-events\x60 | Live |".toList
      ⟨"-".toList, "--with-events".toList, "Live".toList⟩ :=
    rowOf?_eq_some_iff.mp (by rfl)
  have hline : Idle ["| Script | Adds | About |".toList, "|---|---|---|".toList]
      "| - | \x60--with-events\x60 | Live |".toList :=
    .untiered (by decide) hrow fun tier hof => by
      rw [← tierOf?_eq_some_iff, show tierOf? _ = none by rfl] at hof
      cases hof
  have hedited : IsSection (Text.lines eventsText.toList) [] "## 2. Package Scripts".toList
      (["| Script | Adds | About |".toList, "|---|---|---|".toList]
        ++ "| - | \x60--with-events\x60 | Live |".toList
          :: ["| \x60pnpm run crud -- TABLE\x60 | - | Plain |".toList]) ["## Notes".toList] :=
    ⟨by decide +kernel, nofun, by decide, by decide, by decide⟩
  have hedits : Relation.EqvGen Edit (Text.lines tableText.toList) (Text.lines eventsText.toList) :=
    .trans _ _ _ (.rel _ _ (.insert hsection ⟨_, List.mem_cons_self, by decide⟩ hline))
      (.rel _ _ (.around (hsection.insert hline.not_heading) hedited))
  exact ⟨hedits, (packages_tabulated tableText).2.2 eventsText hedits⟩

end DocCatalog.Reference
