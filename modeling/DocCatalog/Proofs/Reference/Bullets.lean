import DocCatalog.Proofs.Reference.Gathering

/-!
# Where bullets come from

A note is made from a bullet if the bullets under a marker are being listed, and a heading ends the list.
A callout of importance without text of its own takes the lines behind it up to the next blank one as its
paragraph, whatever they are. So a heading ends the bullets exactly if it is not in such a paragraph.

* **`Role`**, **`notesFrom_cons`**: what a line outside of paragraphs is, and what is made of it.
* **`InParagraph`**: a line that a callout has taken.
* **`Lists`**: the bullets that are being listed behind some lines.
* **`Makes`**, **`gathers_notes`**: the notes, each from its line.
* **`bullets_end`**: bullets end at the next heading outside of paragraphs.
* **`heading_taken`**: a heading in a paragraph does not end them.
-/

namespace DocCatalog.Reference

/-! ## Roles

What a line outside of paragraphs is can be told by the line alone. The program asks this in several
steps, one after the other; the roles say it at once. -/

/-- What a line is, if no callout has taken it. -/
inductive Role where
  | heading
  | marker (k : Bullets)
  /-- A callout of importance without text, which begins a paragraph. -/
  | opening
  /-- A callout with its note. -/
  | callout (note : List Char)
  /-- A bullet with its text. -/
  | bullet (item : List Char)
  | silent
  deriving DecidableEq

/-- A callout of importance without text opens a paragraph. -/
def calloutRole (k : Callout) (text : List Char) : Role :=
  match k, text.isEmpty with
  | .important, true => .opening
  | _, true => .silent
  | .critical, false => .callout ("CRITICAL: ".toList ++ text)
  | _, false => .callout text

/-- The text of a bullet, if the line is one with a text. -/
def bulletText? : List Char → Option (List Char)
  | '-' :: item => if (Text.trim item).isEmpty then none else some (Text.trim item)
  | _ => none

/-- What a line without outer blanks is, if it is neither a heading nor a marker. -/
def plainRole (line : List Char) : Role :=
  match calloutIn? line with
  | some (k, text) => calloutRole k (Text.trim text)
  | none => ((bulletText? line).map Role.bullet).getD .silent

/-- A heading is one whatever else is in the line, and a marker goes before a callout. -/
def roleOf (line : List Char) : Role :=
  if ['#', '#'].isPrefixOf (Text.trim line) then .heading
  else if Text.contains Bullets.recommended.mark (Text.trim line) then .marker .recommended
  else if Text.contains Bullets.discouraged.mark (Text.trim line) then .marker .discouraged
  else plainRole (Text.trim line)

/-- A bullet is a note if some marker is in force. -/
theorem bulletNote?_eq (bullets : Option Bullets) (line : List Char) :
    bulletNote? bullets line = (bulletText? line).bind fun item => bullets.map (·.lead ++ item) := by
  cases bullets with
  | none => cases bulletText? line <;> rfl
  | some k =>
      cases line with
      | nil => rfl
      | cons c item =>
          by_cases hc : c = '-'
          · subst hc
            cases hempty : (Text.trim item).isEmpty <;> simp [bulletNote?, bulletText?, hempty]
          · simp [bulletNote?, bulletText?, hc]

/-- **A line is read** by its role. -/
theorem notesFrom_cons (bullets : Option Bullets) (line : List Char) (rest : List (List Char)) :
    notesFrom bullets none (line :: rest)
      = match roleOf line with
        | .heading => notesFrom none none rest
        | .marker k => notesFrom (some k) none rest
        | .opening => notesFrom bullets (some []) rest
        | .callout note => note :: notesFrom bullets none rest
        | .bullet item => (bullets.map (·.lead ++ item)).toList ++ notesFrom bullets none rest
        | .silent => notesFrom bullets none rest := by
  rw [notesFrom, roleOf]
  -- the marks are tried in the same order on both sides
  by_cases hheading : ['#', '#'].isPrefixOf (Text.trim line) = true
  · rw [if_pos hheading, if_pos hheading]
  by_cases hdo : Text.contains Bullets.recommended.mark (Text.trim line) = true
  · rw [if_neg hheading, if_neg hheading, if_pos hdo, if_pos hdo]
  by_cases hdont : Text.contains Bullets.discouraged.mark (Text.trim line) = true
  · rw [if_neg hheading, if_neg hheading, if_neg hdo, if_neg hdo, if_pos hdont, if_pos hdont]
  rw [if_neg hheading, if_neg hheading, if_neg hdo, if_neg hdo, if_neg hdont, if_neg hdont, plainRole]
  cases hcallout : calloutIn? (Text.trim line) with
  | none =>
      dsimp only
      rw [bulletNote?_eq]
      cases bulletText? (Text.trim line) <;> rfl
  | some found =>
      obtain ⟨k, text⟩ := found
      cases hempty : (Text.trim text).isEmpty <;> cases k <;> simp [calloutRole, hempty]

/-- A line that is no heading and has no marker is neither. -/
theorem plainRole_ne (line : List Char) :
    plainRole line ≠ .heading ∧ ∀ k, plainRole line ≠ .marker k := by
  unfold plainRole
  cases calloutIn? line with
  | none => cases bulletText? line <;> simp
  | some found =>
      obtain ⟨k, text⟩ := found
      cases hempty : (Text.trim text).isEmpty <;> cases k <;> simp [calloutRole, hempty]

/-- A marker stands anywhere in the line. -/
theorem contains_mark_iff {k : Bullets} {line : List Char} :
    Text.contains k.mark (Text.trim line) = true ↔ k.mark <:+: line := by
  rw [Text.contains_iff]
  exact Text.infix_trim_iff (by cases k <;> decide) (by cases k <;> decide) line

/-- A bullet has a text. -/
theorem bulletText_of_plainRole {line item : List Char} (h : plainRole line = .bullet item) :
    bulletText? line = some item := by
  unfold plainRole at h
  cases hcallout : calloutIn? line with
  | none =>
      rw [hcallout] at h
      cases htext : bulletText? line with
      | none => simp [htext] at h
      | some text => simpa [htext] using h
  | some found =>
      obtain ⟨k, text⟩ := found
      rw [hcallout] at h
      cases hempty : (Text.trim text).isEmpty <;> cases k <;> simp [calloutRole, hempty] at h

/-- **A line is a heading, a marker or neither.** -/
theorem roleOf_cases (line : List Char) :
    (IsHeadingLine line ∧ roleOf line = .heading)
      ∨ (¬ IsHeadingLine line ∧ ∃ k : Bullets, k.mark <:+: line ∧ roleOf line = .marker k)
      ∨ (¬ IsHeadingLine line ∧ roleOf line = plainRole (Text.trim line)) := by
  rw [IsHeadingLine, ← List.isPrefixOf_iff_prefix, roleOf]
  by_cases hheading : ['#', '#'].isPrefixOf (Text.trim line) = true
  · exact Or.inl ⟨hheading, if_pos hheading⟩
  by_cases hdo : Text.contains Bullets.recommended.mark (Text.trim line) = true
  · rw [if_neg hheading, if_pos hdo]
    exact Or.inr (Or.inl ⟨hheading, .recommended, contains_mark_iff.mp hdo, rfl⟩)
  by_cases hdont : Text.contains Bullets.discouraged.mark (Text.trim line) = true
  · rw [if_neg hheading, if_neg hdo, if_pos hdont]
    exact Or.inr (Or.inl ⟨hheading, .discouraged, contains_mark_iff.mp hdont, rfl⟩)
  · rw [if_neg hheading, if_neg hdo, if_neg hdont]
    exact Or.inr (Or.inr ⟨hheading, rfl⟩)

/-- Headings are told by their signs. -/
theorem roleOf_eq_heading_iff {line : List Char} : roleOf line = .heading ↔ IsHeadingLine line := by
  rcases roleOf_cases line with ⟨hheading, hrole⟩ | ⟨hnot, k, -, hrole⟩ | ⟨hnot, hrole⟩
  · exact iff_of_true hrole hheading
  · exact iff_of_false (by simp [hrole]) hnot
  · exact iff_of_false (by rw [hrole]; exact (plainRole_ne _).1) hnot

/-- A marker holds the mark of its bullets. -/
theorem mark_of_roleOf {line : List Char} {k : Bullets} (h : roleOf line = .marker k) :
    k.mark <:+: line := by
  rcases roleOf_cases line with ⟨-, hrole⟩ | ⟨-, k', hmark, hrole⟩ | ⟨-, hrole⟩
  · rw [hrole] at h
    cases h
  · rw [hrole] at h
    cases h
    exact hmark
  · exact absurd (hrole.symm.trans h) ((plainRole_ne _).2 k)

/-- A bullet is a dash and its text. -/
theorem text_of_bullet {line item : List Char} (h : roleOf line = .bullet item) :
    ∃ rest, Text.trim line = '-' :: rest ∧ item = Text.trim rest := by
  rcases roleOf_cases line with ⟨-, hrole⟩ | ⟨-, k, -, hrole⟩ | ⟨-, hrole⟩
  · rw [hrole] at h
    cases h
  · rw [hrole] at h
    cases h
  · have htext := bulletText_of_plainRole (hrole.symm.trans h)
    unfold bulletText? at htext
    split at htext
    · next rest hline =>
        split at htext
        · cases htext
        · exact ⟨rest, hline, (Option.some.inj htext).symm⟩
    · cases htext

/-! ## Paragraphs

A callout of importance without text takes the lines up to the next blank one. Whether it is taking
can be told by the lines before, from the last callout on. -/

/-- A line that is not blank. -/
def hasText (line : List Char) : Bool := !(Text.trim line).isEmpty

/-- The lines that a callout takes of those behind it. -/
def paragraphOf (behind : List (List Char)) : List (List Char) := (behind.takeWhile hasText).map Text.trim

/-- A callout among the lines takes what stands behind them: one without text, and with no blank line
behind it. -/
def Taking (before : List (List Char)) : Prop :=
  ∃ front opener between, before = front ++ opener :: between ∧ roleOf opener = .opening
    ∧ ∀ l ∈ between, hasText l = true

/-- The line behind the others is taken by a callout, and is nothing but a part of its paragraph. -/
def InParagraph (before : List (List Char)) (line : List Char) : Prop :=
  Taking before ∧ hasText line = true

/-- A blank line says nothing. -/
theorem roleOf_blank {line : List Char} (h : hasText line = false) : roleOf line = .silent := by
  rw [hasText, Bool.not_eq_false', List.isEmpty_iff] at h
  rw [roleOf, h]
  decide

/-- What is taken becomes one note, and behind it the lines are read with the same marker in force.
-/
theorem notesFrom_paragraph (bullets : Option Bullets) (block rest : List (List Char)) :
    notesFrom bullets (some block) rest
      = notesFrom.flush (some (block ++ paragraphOf rest))
        ++ notesFrom bullets none (rest.dropWhile hasText) := by
  induction rest generalizing block with
  | nil => simp [notesFrom, paragraphOf, notesFrom.flush]
  | cons line rest ih =>
      have hempty : (Text.trim line).isEmpty = !hasText line := (Bool.not_not _).symm
      rw [notesFrom, hempty]
      cases htext : hasText line with
      | true =>
          rw [Bool.not_true, if_neg Bool.false_ne_true, ih, paragraphOf, paragraphOf,
            List.takeWhile_cons_of_pos htext, List.dropWhile_cons_of_pos htext]
          simp
      | false =>
          have hstop := Bool.eq_false_iff.mp htext
          rw [Bool.not_false, if_pos rfl, paragraphOf, List.takeWhile_cons_of_neg hstop,
            List.dropWhile_cons_of_neg hstop, notesFrom_cons, roleOf_blank htext]
          simp

/-- Of two cuts of a list, the second one is at the same place, behind the first one or in front of it. -/
theorem append_cons_cases {α : Type} {x y x' y' : List α} {a b : α}
    (h : x ++ a :: y = x' ++ b :: y') :
    (x = x' ∧ a = b ∧ y = y') ∨ (∃ m, x' = x ++ a :: m ∧ y = m ++ b :: y')
      ∨ ∃ m, x = x' ++ b :: m ∧ y' = m ++ a :: y := by
  -- one of the two fronts is the longer one, or they are the same
  rcases List.append_eq_append_iff.mp h with ⟨m, hx', hy⟩ | ⟨m, hx, hy'⟩
  · cases m with
    | nil =>
        rw [List.append_nil] at hx'
        obtain ⟨rfl, rfl⟩ := List.cons.inj hy
        exact Or.inl ⟨hx'.symm, rfl, rfl⟩
    | cons c m =>
        obtain ⟨rfl, rfl⟩ := List.cons.inj hy
        exact Or.inr (Or.inl ⟨m, hx', rfl⟩)
  · cases m with
    | nil =>
        rw [List.append_nil] at hx
        obtain ⟨rfl, rfl⟩ := List.cons.inj hy'
        exact Or.inl ⟨hx, rfl, rfl⟩
    | cons c m =>
        obtain ⟨rfl, rfl⟩ := List.cons.inj hy'
        exact Or.inr (Or.inr ⟨m, hx, rfl⟩)

/-- A list that ends with an element is cut there or before it. -/
theorem concat_cases {α : Type} {before front between : List α} {a m : α}
    (h : before ++ [a] = front ++ m :: between) :
    (before = front ∧ a = m ∧ between = [])
      ∨ ∃ rest, before = front ++ m :: rest ∧ between = rest ++ [a] := by
  rcases append_cons_cases h with ⟨hbefore, ha, hnil⟩ | ⟨rest, -, hnil⟩ | hrest
  · exact Or.inl ⟨hbefore, ha, hnil.symm⟩
  · simp at hnil
  · exact Or.inr hrest

/-- **A callout is taking** behind a line if the line opens a paragraph or was taken itself. -/
theorem taking_concat_iff (before : List (List Char)) (line : List Char) :
    Taking (before ++ [line]) ↔ roleOf line = .opening ∨ InParagraph before line := by
  constructor
  · rintro ⟨front, opener, between, hsplit, hopener, hbetween⟩
    rcases concat_cases hsplit with ⟨rfl, rfl, rfl⟩ | ⟨rest, rfl, rfl⟩
    · exact Or.inl hopener
    · rw [List.forall_mem_append, List.forall_mem_singleton] at hbetween
      exact Or.inr ⟨⟨front, opener, rest, rfl, hopener, hbetween.1⟩, hbetween.2⟩
  · rintro (hopener | ⟨⟨front, opener, between, rfl, hopener, hbetween⟩, hline⟩)
    · exact ⟨before, line, [], rfl, hopener, fun l hl => by cases hl⟩
    · refine ⟨front, opener, between ++ [line], by simp, hopener, ?_⟩
      rw [List.forall_mem_append, List.forall_mem_singleton]
      exact ⟨hbetween, hline⟩

/-- Without such a callout nothing is taken. -/
theorem not_taking_of_forall {before : List (List Char)} (h : ∀ l ∈ before, roleOf l ≠ .opening) :
    ¬ Taking before := by
  rintro ⟨front, opener, between, rfl, hopener, -⟩
  exact h opener (List.mem_append_right front List.mem_cons_self) hopener

/-! ## Lists of bullets

A marker is in force from its line on, up to the next marker or heading that is read. -/

/-- The line neither begins a list of bullets nor ends one. -/
def KeepsList (line : List Char) : Prop := roleOf line ≠ .heading ∧ ∀ k, roleOf line ≠ .marker k

instance : DecidablePred KeepsList := fun line =>
  decidable_of_iff
    (roleOf line ≠ .heading ∧ roleOf line ≠ .marker .recommended ∧ roleOf line ≠ .marker .discouraged)
    ⟨fun ⟨hheading, hdo, hdont⟩ => ⟨hheading, fun k => by cases k <;> assumption⟩,
      fun h => ⟨h.1, h.2 _, h.2 _⟩⟩

/-- Going back over the lines outside of paragraphs, a marker of the bullets is met before any heading
and before any other marker. -/
def Lists (k : Bullets) (before : List (List Char)) : Prop :=
  ∃ front marker between, before = front ++ marker :: between ∧ ¬ InParagraph front marker
    ∧ roleOf marker = .marker k
    ∧ ∀ u l v, between = u ++ l :: v → ¬ InParagraph (front ++ marker :: u) l → KeepsList l

/-- **A marker is in force** behind a line if it stands there, or if it was in force and the line
does not end it. -/
theorem lists_concat_iff (k : Bullets) (before : List (List Char)) (line : List Char) :
    Lists k (before ++ [line])
      ↔ (¬ InParagraph before line ∧ roleOf line = .marker k)
        ∨ (Lists k before ∧ (¬ InParagraph before line → KeepsList line)) := by
  constructor
  · rintro ⟨front, marker, between, hsplit, hread, hmarker, hbetween⟩
    rcases concat_cases hsplit with ⟨rfl, rfl, rfl⟩ | ⟨rest, rfl, rfl⟩
    · exact Or.inl ⟨hread, hmarker⟩
    · refine Or.inr ⟨⟨front, marker, rest, rfl, hread, hmarker, ?_⟩, hbetween rest line [] rfl⟩
      rintro u l v rfl
      exact hbetween u l (v ++ [line]) (by simp)
  · rintro (⟨hread, hmarker⟩ | ⟨⟨front, marker, between, rfl, hread, hmarker, hbetween⟩, hline⟩)
    · exact ⟨before, line, [], rfl, hread, hmarker, fun u l v h => by simp at h⟩
    · refine ⟨front, marker, between ++ [line], by simp, hread, hmarker, fun u l v hsplit => ?_⟩
      rcases concat_cases hsplit with ⟨rfl, rfl, -⟩ | ⟨rest, hrest, -⟩
      · exact hline
      · exact hbetween u l rest hrest

/-! ## Notes

The notes are gathered line by line. What is carried along by the program is what can be told by the
lines before: the marker in force, and whether a callout is taking. -/

/-- The note is made of the line. -/
inductive Makes (before : List (List Char)) (line : List Char) (behind : List (List Char)) :
    List Char → Prop
  | bullet {k : Bullets} {item : List Char} (hread : ¬ InParagraph before line)
      (hline : roleOf line = .bullet item) (hlists : Lists k before) :
      Makes before line behind (k.lead ++ item)
  | callout {note : List Char} (hread : ¬ InParagraph before line)
      (hline : roleOf line = .callout note) : Makes before line behind note
  | paragraph (hread : ¬ InParagraph before line) (hline : roleOf line = .opening)
      (hne : paragraphOf behind ≠ []) : Makes before line behind (Text.join ['\n'] (paragraphOf behind))

section

variable {before : List (List Char)} {line : List Char} {bullets : Option Bullets}

/-- What is listed stays so behind a line that does not end it, or that a callout has taken. -/
theorem listed_concat (hlisted : ∀ k, bullets = some k ↔ Lists k before)
    (hline : ¬ InParagraph before line → KeepsList line) (k : Bullets) :
    bullets = some k ↔ Lists k (before ++ [line]) := by
  rw [lists_concat_iff, hlisted k]
  constructor
  · intro h
    exact Or.inr ⟨h, hline⟩
  · rintro (⟨hread, hmarker⟩ | ⟨h, -⟩)
    · exact absurd hmarker ((hline hread).2 k)
    · exact h

/-- Behind a heading no marker is in force. -/
theorem listed_heading (hread : ¬ InParagraph before line) (hline : roleOf line = .heading)
    (k : Bullets) : none = some k ↔ Lists k (before ++ [line]) := by
  rw [lists_concat_iff, hline]
  constructor
  · intro h
    cases h
  · rintro (⟨-, h⟩ | ⟨-, h⟩)
    · cases h
    · exact absurd hline (h hread).1

/-- Behind a marker this one is. -/
theorem listed_marker (hread : ¬ InParagraph before line) {k' : Bullets}
    (hline : roleOf line = .marker k') (k : Bullets) :
    some k' = some k ↔ Lists k (before ++ [line]) := by
  rw [lists_concat_iff]
  constructor
  · rintro ⟨⟩
    exact Or.inl ⟨hread, hline⟩
  · rintro (⟨-, h⟩ | ⟨-, h⟩)
    · rw [hline] at h
      cases h
      rfl
    · exact absurd hline ((h hread).2 k')

/-- A line in a paragraph makes no note. -/
theorem Makes.read {behind : List (List Char)} {note : List Char} (h : Makes before line behind note) :
    ¬ InParagraph before line := by
  cases h <;> assumption

/-- A line that begins a list or ends one makes no note, nor does one that is silent. -/
theorem Makes.role {behind : List (List Char)} {note : List Char} (h : Makes before line behind note) :
    KeepsList line ∧ roleOf line ≠ .silent := by
  cases h with
  | bullet _ hline _ | callout _ hline | paragraph _ hline _ => simp [KeepsList, hline]

/-- A bullet makes a note with the marker in force. -/
theorem Makes.of_bullet {behind : List (List Char)} {note item : List Char}
    (h : Makes before line behind note) (hline : roleOf line = .bullet item) :
    ∃ k, note = Bullets.lead k ++ item ∧ Lists k before := by
  cases h with
  | @bullet k _ _ hbullet hlists =>
      rw [hline] at hbullet
      cases hbullet
      exact ⟨k, rfl, hlists⟩
  | callout _ hcallout =>
      rw [hline] at hcallout
      cases hcallout
  | paragraph _ hopening _ =>
      rw [hline] at hopening
      cases hopening

/-- A callout without text makes a note of its paragraph, if there is one. -/
theorem Makes.of_opening {behind : List (List Char)} {note : List Char}
    (h : Makes before line behind note) (hline : roleOf line = .opening) : paragraphOf behind ≠ [] := by
  cases h with
  | bullet _ hbullet _ =>
      rw [hline] at hbullet
      cases hbullet
  | callout _ hcallout =>
      rw [hline] at hcallout
      cases hcallout
  | paragraph _ _ hne => exact hne

/-- An empty paragraph is no note. -/
theorem flush_paragraph (behind : List (List Char)) :
    notesFrom.flush (some (paragraphOf behind))
      = if paragraphOf behind = [] then [] else [Text.join ['\n'] (paragraphOf behind)] := by
  cases paragraphOf behind with
  | nil => rfl
  | cons line lines => rfl

/-- **Notes are gathered**, outside of a paragraph and from where one ends. -/
theorem gathers_notesFrom (lines : List (List Char))
    (hlisted : ∀ k, bullets = some k ↔ Lists k before) :
    (¬ Taking before → Gathers Makes before lines (notesFrom bullets none lines))
      ∧ (Taking before → Gathers Makes before lines
          (notesFrom bullets none (lines.dropWhile hasText))) := by
  induction lines generalizing before bullets with
  | nil => exact ⟨fun _ => .nil, fun _ => .nil⟩
  | cons line lines ih =>
      have hstays : KeepsList line → ∀ k, bullets = some k ↔ Lists k (before ++ [line]) :=
        fun hline => listed_concat hlisted fun _ => hline
      have houtside : roleOf line ≠ .opening → ¬ InParagraph before line → ¬ Taking (before ++ [line]) :=
        fun hline hread h => ((taking_concat_iff _ _).mp h).elim hline hread
      -- no paragraph is open, and then one is
      constructor
      · intro htaking
        have hread : ¬ InParagraph before line := fun h => htaking h.1
        rw [notesFrom_cons]
        cases hline : roleOf line with
        | heading =>
            have hrest := (ih (listed_heading hread hline)).1 (houtside (by simp [hline]) hread)
            exact .silent (fun note h => h.role.1.1 hline) hrest
        | marker k =>
            have hrest := (ih (listed_marker hread hline)).1 (houtside (by simp [hline]) hread)
            exact .silent (fun note h => h.role.1.2 k hline) hrest
        | opening =>
            have hrest := (ih (hstays (by simp [KeepsList, hline]))).2
              ((taking_concat_iff _ _).mpr (Or.inl hline))
            dsimp only
            rw [notesFrom_paragraph, List.nil_append, flush_paragraph]
            split
            · next hempty => exact .silent (fun note h => h.of_opening hline hempty) hrest
            · next hne => exact .made (.paragraph hread hline hne) hrest
        | callout note =>
            have hrest := (ih (hstays (by simp [KeepsList, hline]))).1 (houtside (by simp [hline]) hread)
            exact .made (.callout hread hline) hrest
        | bullet item =>
            have hrest := (ih (hstays (by simp [KeepsList, hline]))).1 (houtside (by simp [hline]) hread)
            cases bullets with
            | some k => exact .made (.bullet hread hline ((hlisted k).mp rfl)) hrest
            | none =>
                refine .silent (fun note h => ?_) hrest
                obtain ⟨k, -, hlists⟩ := h.of_bullet hline
                cases (hlisted k).mpr hlists
        | silent =>
            have hrest := (ih (hstays (by simp [KeepsList, hline]))).1 (houtside (by simp [hline]) hread)
            exact .silent (fun note h => h.role.2 hline) hrest
      · intro htaking
        cases htext : hasText line with
        | true =>
            -- the paragraph takes the line, whatever it is
            have htaken : InParagraph before line := ⟨htaking, htext⟩
            have hrest := (ih (listed_concat hlisted fun hread => absurd htaken hread)).2
              ((taking_concat_iff _ _).mpr (Or.inr htaken))
            rw [List.dropWhile_cons_of_pos htext]
            exact .silent (fun note h => h.read htaken) hrest
        | false =>
            have hline := roleOf_blank htext
            have hread : ¬ InParagraph before line := fun h => by
              rw [h.2] at htext
              cases htext
            have hrest := (ih (hstays (by simp [KeepsList, hline]))).1 (houtside (by simp [hline]) hread)
            rw [List.dropWhile_cons_of_neg (Bool.eq_false_iff.mp htext), notesFrom_cons, hline]
            exact .silent (fun note h => h.role.2 hline) hrest

end

/-- **The notes of a text** are made by its lines, each by one. -/
theorem gathers_notes (lines : List (List Char)) :
    Gathers Makes [] lines (notesFrom none none lines) := by
  have hnone : ∀ k, none = some k ↔ Lists k [] := fun k => by
    constructor
    · intro h
      cases h
    · rintro ⟨front, marker, between, h, -⟩
      simp at h
  refine (gathers_notesFrom lines hnone).1 ?_
  rintro ⟨front, opener, between, h, -⟩
  simp at h

/-- What becomes of a bullet, by the lines before it. -/
structure EndsAtHeadings (before : List (List Char)) (line : List Char) (behind : List (List Char))
    (item : List Char) : Prop where
  text : ∃ rest, Text.trim line = '-' :: rest ∧ item = Text.trim rest
  listed : ∀ note, Makes before line behind note →
    ∃ (k : Bullets) (front between : List (List Char)) (marker : List Char), note = k.lead ++ item
      ∧ before = front ++ marker :: between ∧ k.mark <:+: marker
      ∧ ∀ u l v, between = u ++ l :: v → IsHeadingLine l → InParagraph (front ++ marker :: u) l
  ended : ∀ front heading between, before = front ++ heading :: between → IsHeadingLine heading →
    ¬ InParagraph front heading →
    (∀ u l v (k : Bullets), between = u ++ l :: v → k.mark <:+: l →
      IsHeadingLine l ∨ InParagraph (front ++ heading :: u) l) →
    ∀ note, ¬ Makes before line behind note

/-- Behind a heading, no bullets are listed until there is another marker. -/
theorem not_lists_of_heading {k : Bullets} {front between : List (List Char)} {heading : List Char}
    (hheading : IsHeadingLine heading) (hread : ¬ InParagraph front heading)
    (hmarkers : ∀ u l v (k : Bullets), between = u ++ l :: v → k.mark <:+: l →
      IsHeadingLine l ∨ InParagraph (front ++ heading :: u) l) :
    ¬ Lists k (front ++ heading :: between) := by
  rintro ⟨before, marker, behind, hsplit, hmarkerRead, hmarker, hbehind⟩
  have hrole := roleOf_eq_heading_iff.mpr hheading
  rcases append_cons_cases hsplit with ⟨-, rfl, -⟩ | ⟨m, rfl, rfl⟩ | ⟨m, rfl, rfl⟩
  · rw [hrole] at hmarker
    cases hmarker
  · rcases hmarkers m marker behind k rfl (mark_of_roleOf hmarker) with hline | htaken
    · rw [roleOf_eq_heading_iff.mpr hline] at hmarker
      cases hmarker
    · exact hmarkerRead htaken
  · exact (hbehind m heading between rfl hread).1 hrole

/-- **Bullets end at the next heading** that is not in a paragraph of a callout. -/
theorem bullets_end (text : String) :
    Gathers Makes [] (Text.lines text.toList) ((QuickReference.parse text).notes.map String.toList)
      ∧ ∀ before line behind item, roleOf line = .bullet item →
        EndsAtHeadings before line behind item := by
  constructor
  · rw [QuickReference.parse, map_toList_ofList]
    exact gathers_notes (Text.lines text.toList)
  · intro before line behind item hline
    refine ⟨text_of_bullet hline, fun note hnote => ?_, ?_⟩
    · obtain ⟨k, hlead, front, marker, between, hbefore, -, hmarker, hbetween⟩ := hnote.of_bullet hline
      refine ⟨k, front, between, marker, hlead, hbefore, mark_of_roleOf hmarker, ?_⟩
      intro u l v hsplit hheading
      exact Classical.byContradiction fun hread =>
        (hbetween u l v hsplit hread).1 (roleOf_eq_heading_iff.mpr hheading)
    · rintro front heading between rfl hheading hread hmarkers note hnote
      obtain ⟨k, -, hlists⟩ := hnote.of_bullet hline
      exact not_lists_of_heading hheading hread hmarkers hlists

/-- Bullets under a marker, and under a heading behind them. -/
def endedText : String := "✅ **DO:**\n- keep names plural\n### Other\n- no note\n"

/-- A heading of lower rank ends the list too. -/
theorem bullets_end_ended :
    Gathers Makes [] (Text.lines endedText.toList) ["DO: keep names plural".toList]
      ∧ roleOf "- no note".toList = .bullet "no note".toList
      ∧ IsHeadingLine "### Other".toList
      ∧ ¬ InParagraph ["✅ **DO:**".toList, "- keep names plural".toList] "### Other".toList
      ∧ ∀ note, ¬ Makes ["✅ **DO:**".toList, "- keep names plural".toList, "### Other".toList]
          "- no note".toList [] note := by
  have hnotes : (QuickReference.parse endedText).notes = ["DO: keep names plural"] := by decide
  have hrole : roleOf "- no note".toList = .bullet "no note".toList := by decide
  have hread : ¬ InParagraph ["✅ **DO:**".toList, "- keep names plural".toList] "### Other".toList :=
    fun h => not_taking_of_forall (by decide) h.1
  obtain ⟨hgathers, hends⟩ := bullets_end endedText
  rw [hnotes] at hgathers
  have hended := (hends _ _ [] _ hrole).ended ["✅ **DO:**".toList, "- keep names plural".toList]
    "### Other".toList [] rfl (by decide) hread (fun u l v k hsplit => by simp at hsplit)
  exact ⟨hgathers, hrole, by decide, hread, hended⟩

/-- A marker, a callout without text, a heading right behind it, and a bullet behind a blank line. -/
def takenText : String := "**DO:**\n**Important**:\n## Later\n\n- run build first\n"

/-- The heading was taken, so the marker is in force still. -/
theorem lists_taken :
    Lists .recommended ["**DO:**".toList, "**Important**:".toList, "## Later".toList, []] := by
  have hopened : InParagraph ["**DO:**".toList, "**Important**:".toList] "## Later".toList :=
    ⟨(taking_concat_iff ["**DO:**".toList] _).mpr (Or.inl (by decide)), by decide⟩
  have hmarker : Lists .recommended ["**DO:**".toList] :=
    (lists_concat_iff _ [] _).mpr
      (Or.inl ⟨fun h => not_taking_of_forall (by decide) h.1, by decide⟩)
  have hcallout : Lists .recommended ["**DO:**".toList, "**Important**:".toList] :=
    (lists_concat_iff _ ["**DO:**".toList] _).mpr (Or.inr ⟨hmarker, fun _ => by decide⟩)
  have hheading : Lists .recommended ["**DO:**".toList, "**Important**:".toList, "## Later".toList] :=
    (lists_concat_iff _ ["**DO:**".toList, "**Important**:".toList] _).mpr
      (Or.inr ⟨hcallout, fun hread => absurd hopened hread⟩)
  exact (lists_concat_iff _ ["**DO:**".toList, "**Important**:".toList, "## Later".toList] _).mpr
    (Or.inr ⟨hheading, fun _ => by decide⟩)

/-- Going back from the end, a heading is met before any line with the mark. -/
theorem not_met_of_heading {k : Bullets} (x y : List (List Char)) (heading : List Char)
    (hheading : IsHeadingLine heading)
    (hmark : ∀ l ∈ heading :: y, Text.contains k.mark l = false) :
    ¬ ∃ front marker between, x ++ heading :: y = front ++ marker :: between ∧ k.mark <:+: marker
      ∧ ∀ l ∈ between, ¬ IsHeadingLine l := by
  rintro ⟨front, marker, between, hsplit, hmarker, hbetween⟩
  have hnot : marker ∉ heading :: y := fun hmem => by
    rw [← Text.contains_iff, hmark marker hmem] at hmarker
    cases hmarker
  rcases append_cons_cases hsplit with ⟨-, rfl, -⟩ | ⟨m, -, rfl⟩ | ⟨m, -, rfl⟩
  · exact hnot List.mem_cons_self
  · exact hnot (by simp)
  · exact hbetween heading (by simp) hheading

/-- A heading that a callout has taken for its paragraph does not end the bullets. -/
theorem heading_taken :
    (QuickReference.parse takenText).notes = ["## Later", "DO: run build first"]
      ∧ ¬ ∀ (text : String) (before behind : List (List Char)) (line item : List Char) (k : Bullets),
        Text.lines text.toList = before ++ line :: behind → roleOf line = .bullet item →
        Makes before line behind (k.lead ++ item) →
        ∃ front marker between, before = front ++ marker :: between ∧ k.mark <:+: marker
          ∧ ∀ l ∈ between, ¬ IsHeadingLine l := by
  refine ⟨by decide, fun never => ?_⟩
  -- the empty callout takes the heading, so the paragraph is over only at the blank line behind it
  have hread : ¬ InParagraph ["**DO:**".toList, "**Important**:".toList, "## Later".toList, []]
      "- run build first".toList := by
    rintro ⟨htaking, -⟩
    rcases (taking_concat_iff ["**DO:**".toList, "**Important**:".toList, "## Later".toList] _).mp
      htaking with hopening | ⟨-, htext⟩
    · revert hopening
      decide
    · cases htext
  have hrole : roleOf "- run build first".toList = .bullet "run build first".toList := by decide
  have hlines : Text.lines takenText.toList
      = ["**DO:**".toList, "**Important**:".toList, "## Later".toList, []]
        ++ "- run build first".toList :: [] := by decide
  have hmet := never takenText _ [] _ _ .recommended hlines hrole
    (.bullet hread hrole lists_taken)
  exact not_met_of_heading ["**DO:**".toList, "**Important**:".toList] [[]] "## Later".toList
    (by decide) (by decide) hmet

end DocCatalog.Reference
