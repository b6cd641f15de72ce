import DocCatalog.Emit.Commands
import DocCatalog.Emit.Components
import DocCatalog.Emit.Patterns
import DocCatalog.Proofs.Emit.Tells

/-!
# Reading the braces of a table

A table is read character by character. Braces count outside of literals only, and an entry begins with
a brace that no other one in the table is around.

* **`Mode`**, **`Reading`**: where a character stands, and how far a table has been read.
* **`Neutral`**: a text inside an entry that leaves the reader as it was.
* **`neutral_quote`**, **`neutral_template`**: literals are neutral, whatever they stand for.
* **`neutral_strField`**, **`neutral_listField`**, **`Neutral.objectItem`** and so on: fields are neutral.
* **`Components.neutral_fields`**, **`Commands.neutral_fields`**, **`Patterns.neutral_fields`**: so is
  all that an entry says of a record.
-/

namespace DocCatalog.Emit

/-! ## The reader

The reader knows where literals begin and end, how deep it stands in braces, and how many entries it
has met. A brace in a literal is a character like any other. -/

/-- Where a character stands: outside of literals, or in one of either kind, where it may have a
backslash in front of it. -/
inductive Mode where
  | plain
  | quoted (escaped : Bool)
  | templated (escaped : Bool)
  deriving DecidableEq, Repr

/-- A backslash takes the next character with it, in either kind of literal. -/
def Mode.next : Mode → Char → Mode
  | .plain, c => if c == '\'' then .quoted false else if c == '\x60' then .templated false else .plain
  | .quoted false, c => if c == '\\' then .quoted true else if c == '\'' then .plain else .quoted false
  | .quoted true, _ => .quoted false
  | .templated false, c =>
    if c == '\\' then .templated true else if c == '\x60' then .plain else .templated false
  | .templated true, _ => .templated false

/-- How far a table has been read, and how many entries have been met. -/
inductive Reading where
  | inside (mode : Mode) (depth entries : Nat)
  | behind (entries : Nat)
  deriving DecidableEq, Repr

/-- An entry is counted when its brace opens; the brace that closes the table itself ends the
reading. -/
def Reading.next : Reading → Char → Reading
  | .inside .plain depth n, c =>
    if c == '\x7b' then .inside .plain (depth + 1) (if depth == 0 then n + 1 else n)
    else if c == '\x7d' then (if depth == 0 then .behind n else .inside .plain (depth - 1) n)
    else .inside (Mode.plain.next c) depth n
  | .inside mode depth n, c => .inside (mode.next c) depth n
  | .behind n, _ => .behind n

/-- How many entries have been met so far. -/
def Reading.entries : Reading → Nat
  | .inside _ _ n => n
  | .behind n => n

/-- The reader behind a whole text. -/
def Reading.past (r : Reading) (s : String) : Reading := s.toList.foldl Reading.next r

/-- Two texts are read one after the other. -/
theorem Reading.past_append (r : Reading) (s t : String) : r.past (s ++ t) = (r.past s).past t := by
  rw [past, String.toList_append, List.foldl_append]
  rfl

/-- A brace in a literal is none of the table. -/
example : (Reading.inside .plain 0 0).past "  a: \x7b\n    b: '\x7d',\n  \x7d,\n\x7d;\n" = .behind 1 := by
  decide

/-! ## Neutral texts

Inside an entry all that is written leaves the reader as it was. This is a property of single texts
that carries over to what they are put together to, so the fields of a record can be looked at one
by one. -/

/-- The text can stand inside an entry: the reader leaves it as deep in the table as it was. -/
def Neutral (s : String) : Prop :=
  ∀ depth n, (Reading.inside .plain (depth + 1) n).past s = .inside .plain (depth + 1) n

/-- A character that means nothing to the reader outside of literals. -/
def isTame (c : Char) : Bool := !(['\'', '\x60', '\x7b', '\x7d'].contains c)

theorem neutral_empty : Neutral "" := fun _ _ => rfl

/-- Texts that are neutral can be put together. -/
theorem Neutral.append {s t : String} (hs : Neutral s) (ht : Neutral t) : Neutral (s ++ t) := by
  intro depth n
  rw [Reading.past_append, hs, ht]

theorem Neutral.join {items : List String} (h : ∀ s ∈ items, Neutral s) :
    Neutral (String.join items) := by
  induction items with
  | nil => exact neutral_empty
  | cons s items ih =>
      rw [String.join_cons]
      exact (h s List.mem_cons_self).append (ih fun t ht => h t (List.mem_cons_of_mem s ht))

/-- A character that is no quote and no brace changes nothing. -/
theorem next_of_isTame {c : Char} (h : isTame c = true) (depth n : Nat) :
    (Reading.inside .plain depth n).next c = .inside .plain depth n := by
  simp [isTame] at h
  simp [Reading.next, Mode.next, h]

theorem past_of_isTame {s : String} (h : s.toList.all isTame = true) (depth n : Nat) :
    (Reading.inside .plain depth n).past s = .inside .plain depth n := by
  unfold Reading.past
  generalize s.toList = cs at h
  induction cs with
  | nil => rfl
  | cons c cs ih =>
      rw [List.all_cons, Bool.and_eq_true] at h
      rw [List.foldl_cons, next_of_isTame h.1, ih h.2]

theorem neutral_of_isTame {s : String} (h : s.toList.all isTame = true) : Neutral s :=
  fun depth => past_of_isTame h (depth + 1)

theorem neutral_spaces (n : Nat) : Neutral (spaces n) := by
  refine neutral_of_isTame (List.all_eq_true.mpr fun c hc => ?_)
  rw [spaces, String.toList_ofList] at hc
  rw [List.eq_of_mem_replicate hc]
  decide

/-- Braces around a neutral text take the reader one step down and up again. -/
theorem Neutral.braces {s : String} (h : Neutral s) : Neutral ("\x7b\n" ++ s ++ "\x7d,\n") := by
  intro depth n
  have hopen : (Reading.inside .plain (depth + 1) n).past "\x7b\n" = .inside .plain (depth + 2) n := rfl
  have hclose : (Reading.inside .plain (depth + 2) n).past "\x7d,\n" = .inside .plain (depth + 1) n := rfl
  rw [Reading.past_append, Reading.past_append, hopen, h, hclose]

/-! ## Literals

Whatever text a literal stands for, it begins and ends with its quote, and between them the reader
stays in it: a quote in the text is written with a backslash. -/

/-- Behind what is written for a character the reader is in the literal still. -/
theorem foldl_escapeSingleChar (c : Char) (depth n : Nat) :
    (escapeSingleChar c).foldl Reading.next (.inside (.quoted false) depth n)
      = .inside (.quoted false) depth n := by
  unfold escapeSingleChar
  split
  case h_9 hbackslash hquote _ _ _ _ _ _ =>
    have hb : c ≠ '\\' := hbackslash
    have hq : c ≠ '\'' := hquote
    simp [Reading.next, Mode.next, hb, hq]
  all_goals rfl

theorem foldl_escapeTemplateChar (c : Char) (depth n : Nat) :
    (escapeTemplateChar c).foldl Reading.next (.inside (.templated false) depth n)
      = .inside (.templated false) depth n := by
  unfold escapeTemplateChar
  split
  · rfl
  · next h =>
      simp only [Bool.or_eq_true, beq_iff_eq, not_or] at h
      simp [Reading.next, Mode.next, h]

/-- What leaves the reader as it was, character by character, does so as a whole. -/
theorem foldl_flatMap_fixed {write : Char → List Char} {r : Reading}
    (h : ∀ c, (write c).foldl Reading.next r = r) (cs : List Char) :
    (cs.flatMap write).foldl Reading.next r = r := by
  induction cs with
  | nil => rfl
  | cons c cs ih => rw [List.flatMap_cons, List.foldl_append, h, ih]

/-- **A literal is neutral**, whatever text it stands for. -/
theorem neutral_quote (s : String) : Neutral (quote s) := by
  intro depth n
  have hopen : (Reading.inside .plain (depth + 1) n).past "'" = .inside (.quoted false) (depth + 1) n :=
    rfl
  have hclose : (Reading.inside (.quoted false) (depth + 1) n).past "'" = .inside .plain (depth + 1) n :=
    rfl
  have hbody : (Reading.inside (.quoted false) (depth + 1) n).past
      (String.ofList (escapeSingle s.toList)) = .inside (.quoted false) (depth + 1) n := by
    rw [Reading.past, String.toList_ofList]
    exact foldl_flatMap_fixed (foldl_escapeSingleChar · (depth + 1) n) s.toList
  rw [quote, Reading.past_append, Reading.past_append, hopen, hbody, hclose]

/-- **A template literal is neutral**, with all line breaks and braces of its text. -/
theorem neutral_template (s : String) : Neutral (template s) := by
  intro depth n
  have hopen : (Reading.inside .plain (depth + 1) n).past "\x60"
      = .inside (.templated false) (depth + 1) n := rfl
  have hclose : (Reading.inside (.templated false) (depth + 1) n).past "\x60"
      = .inside .plain (depth + 1) n := rfl
  have hbody : (Reading.inside (.templated false) (depth + 1) n).past
      (String.ofList (escapeTemplate s.toList)) = .inside (.templated false) (depth + 1) n := by
    rw [Reading.past, String.toList_ofList]
    exact foldl_flatMap_fixed (foldl_escapeTemplateChar · (depth + 1) n) s.toList
  rw [template, Reading.past_append, Reading.past_append, hopen, hbody, hclose]

/-! ## Fields

A field is a name, a value and some punctuation that is neutral. -/

/-- A name of a field. -/
def IsTame (name : String) : Prop := name.toList.all isTame = true

instance (name : String) : Decidable (IsTame name) := inferInstanceAs (Decidable (_ = true))

section Fields

variable (indent : Nat) (name : String) (hname : IsTame name)

include hname

/-- A field is as neutral as its value. -/
theorem Neutral.sourceField {value : String} (h : Neutral value) :
    Neutral (sourceField indent name value) :=
  ((((neutral_spaces indent).append (neutral_of_isTame hname)).append
    (neutral_of_isTame (by decide))).append h).append (neutral_of_isTame (by decide))

theorem neutral_strField (value : String) : Neutral (strField indent name value) :=
  (neutral_quote value).sourceField indent name hname

theorem neutral_templateField (value : String) : Neutral (templateField indent name value) :=
  (neutral_template value).sourceField indent name hname

/-- A field that is left out is nothing at all. -/
theorem neutral_optStrField (value : Option String) : Neutral (optStrField indent name value) := by
  cases value with
  | none => exact neutral_empty
  | some v => exact neutral_strField indent name hname v

/-- Brackets do not count, so that a list is as neutral as its items. -/
theorem neutral_listField {items : List String} (h : ∀ s ∈ items, Neutral s) :
    Neutral (listField indent name items) := by
  unfold listField
  split
  · exact (neutral_of_isTame (by decide)).sourceField indent name hname
  · have hhead := ((neutral_spaces indent).append (neutral_of_isTame hname)).append
      (neutral_of_isTame (s := ": [\n") (by decide))
    exact ((hhead.append (.join h)).append (neutral_spaces indent)).append
      (neutral_of_isTame (by decide))

omit name hname in
/-- An item with its comma. -/
theorem Neutral.itemLine {item : String} (h : Neutral item) : Neutral (itemLine indent item) :=
  ((neutral_spaces indent).append h).append (neutral_of_isTame (by decide))

theorem neutral_strListField (items : List String) : Neutral (strListField indent name items) := by
  refine neutral_listField indent name hname fun s hs => ?_
  obtain ⟨item, -, rfl⟩ := List.mem_map.mp hs
  exact (neutral_quote item).itemLine (indent + 2)

theorem neutral_templateListField (items : List String) :
    Neutral (templateListField indent name items) := by
  refine neutral_listField indent name hname fun s hs => ?_
  obtain ⟨item, -, rfl⟩ := List.mem_map.mp hs
  exact (neutral_template item).itemLine (indent + 2)

/-- A list of literals is neutral, and so is the nothing in place of an empty one. -/
theorem neutral_optStrListField (items : List String) :
    Neutral (optStrListField indent name items) := by
  unfold optStrListField
  split
  · exact neutral_empty
  · exact neutral_strListField indent name hname items

omit name hname in
/-- **An object is neutral** when its fields are. -/
theorem Neutral.objectItem {fields : String} (h : Neutral fields) :
    Neutral (objectItem indent fields) := by
  have hbraces := (h.append (neutral_spaces indent)).braces
  have hitem : Emit.objectItem indent fields
      = spaces indent ++ ("\x7b\n" ++ (fields ++ spaces indent) ++ "\x7d,\n") := by
    simp only [Emit.objectItem, String.append_assoc]
  rw [hitem]
  exact (neutral_spaces indent).append hbraces

end Fields

/-! ## Entries

The three kinds of records have nothing in them but such fields. Only the number that is the default
of an option is written as it stands in the source. -/

namespace Components

theorem neutral_inputItem (i : ComponentInput) : Neutral (inputItem i) := by
  refine Neutral.objectItem 6 ?_
  have hname := neutral_strField 8 "name" (by decide) i.name
  have htype := neutral_strField 8 "type" (by decide) i.typeText
  have hdefault := neutral_optStrField 8 "default" (by decide) i.default?
  have hdescription := neutral_strField 8 "description" (by decide) i.description
  have hrequired : Neutral (if i.isRequired then sourceField 8 "required" "true" else "") := by
    split
    · exact (neutral_of_isTame (by decide)).sourceField 8 _ (by decide)
    · exact neutral_empty
  exact (((hname.append htype).append hdefault).append hdescription).append hrequired

theorem neutral_outputItem (o : ComponentOutput) : Neutral (outputItem o) := by
  refine Neutral.objectItem 6 ?_
  have hname := neutral_strField 8 "name" (by decide) o.name
  have htype := neutral_strField 8 "type" (by decide) o.typeText
  have hdescription := neutral_strField 8 "description" (by decide) o.description
  exact (hname.append htype).append hdescription

/-- **What the entry of a component says** is neutral. -/
theorem neutral_fields (c : ComponentRecord) : Neutral (fields c) := by
  have hname := neutral_strField 4 "name" (by decide) c.name
  have hselector := neutral_strField 4 "selector" (by decide) c.selector
  have hcategory := neutral_strField 4 "category" (by decide) c.category
  have hdescription := neutral_strField 4 "description" (by decide) c.description
  have hinputs : Neutral (listField 4 "inputs" (c.inputs.map inputItem)) := by
    refine neutral_listField 4 _ (by decide) fun s hs => ?_
    obtain ⟨i, -, rfl⟩ := List.mem_map.mp hs
    exact neutral_inputItem i
  have houtputs : Neutral (listField 4 "outputs" (c.outputs.map outputItem)) := by
    refine neutral_listField 4 _ (by decide) fun s hs => ?_
    obtain ⟨o, -, rfl⟩ := List.mem_map.mp hs
    exact neutral_outputItem o
  have husage := neutral_templateField 4 "usage" (by decide) (c.usage.getD "")
  have hpractices := neutral_optStrListField 4 "bestPractices" (by decide) c.bestPractices
  have hrelated := neutral_optStrListField 4 "relatedComponents" (by decide) c.related
  exact (((((((hname.append hselector).append hcategory).append hdescription).append hinputs).append
    houtputs).append husage).append hpractices).append hrelated

end Components

namespace Commands

/-- The numbers among the defaults of a command hold no quotes and no braces. -/
def HasTameNumbers (c : CommandRecord) : Prop :=
  ∀ o ∈ c.options, ∀ text, o.default? = some (.number text) → IsTame text

theorem neutral_argumentItem (a : CommandArgument) : Neutral (argumentItem a) := by
  refine Neutral.objectItem 6 ?_
  have hname := neutral_strField 8 "name" (by decide) a.name
  have hdescription := neutral_strField 8 "description" (by decide) a.description
  have hrequired : Neutral (sourceField 8 "required" (if a.isRequired then "true" else "false")) := by
    refine Neutral.sourceField 8 _ (by decide) ?_
    split
    · exact neutral_of_isTame (by decide)
    · exact neutral_of_isTame (by decide)
  exact (hname.append hdescription).append hrequired

/-- A default is a literal or a word, unless it is a number, for which there has to be an
assumption. -/
theorem neutral_defaultLiteral {d : OptionDefault} (h : ∀ text, d = .number text → IsTame text) :
    Neutral (defaultLiteral d) := by
  cases d with
  | bool b =>
      cases b with
      | true => exact neutral_of_isTame (s := "true") (by decide)
      | false => exact neutral_of_isTame (s := "false") (by decide)
  | number text => exact neutral_of_isTame (h text rfl)
  | str s => exact neutral_quote s

/-- An option is as neutral as its default. -/
theorem neutral_optionItem {o : CommandOption}
    (h : ∀ text, o.default? = some (.number text) → IsTame text) : Neutral (optionItem o) := by
  refine Neutral.objectItem 6 ?_
  have hname := neutral_strField 8 "name" (by decide) o.name
  have halias := neutral_optStrField 8 "alias" (by decide) o.alias?
  have htype := neutral_strField 8 "type" (by decide) o.type.text
  have hdescription := neutral_strField 8 "description" (by decide) o.description
  have hchoices := neutral_optStrListField 8 "choices" (by decide) o.choices
  refine ((((hname.append halias).append htype).append ?_).append hdescription).append hchoices
  split
  · next d hd =>
      refine Neutral.sourceField 8 _ (by decide) (neutral_defaultLiteral ?_)
      rintro text rfl
      exact h text hd
  · exact neutral_empty

/-- **What the entry of a command says** is neutral. -/
theorem neutral_fields {c : CommandRecord} (h : HasTameNumbers c) : Neutral (fields c) := by
  have hname := neutral_strField 4 "name" (by decide) c.name
  have halias := neutral_optStrField 4 "alias" (by decide) c.alias?
  have hdescription := neutral_strField 4 "description" (by decide) c.description
  have husage := neutral_strField 4 "usage" (by decide) c.usage
  have harguments : Neutral (listField 4 "arguments" (c.arguments.map argumentItem)) := by
    refine neutral_listField 4 _ (by decide) fun s hs => ?_
    obtain ⟨a, -, rfl⟩ := List.mem_map.mp hs
    exact neutral_argumentItem a
  have hoptions : Neutral (listField 4 "options" (c.options.map optionItem)) := by
    refine neutral_listField 4 _ (by decide) fun s hs => ?_
    obtain ⟨o, ho, rfl⟩ := List.mem_map.mp hs
    exact neutral_optionItem (h o ho)
  have hexamples := neutral_templateListField 4 "examples" (by decide) c.examples
  have hnotes := neutral_optStrListField 4 "notes" (by decide) c.notes
  exact ((((((hname.append halias).append hdescription).append husage).append harguments).append
    hoptions).append hexamples).append hnotes

end Commands

/-- **What the entry of a pattern says** is neutral. -/
theorem Patterns.neutral_fields (p : PatternRecord) : Neutral (Patterns.fields p) := by
  have hname := neutral_strField 4 "name" (by decide) p.name
  have htitle := neutral_strField 4 "title" (by decide) p.title
  have hcategory := neutral_strField 4 "category" (by decide) p.category
  have hlanguage := neutral_strField 4 "language" (by decide) p.language
  have hdescription := neutral_strField 4 "description" (by decide) p.description
  have hcode := neutral_templateField 4 "code" (by decide) p.code
  have hnotes := neutral_optStrListField 4 "notes" (by decide) p.notes
  have hrelated := neutral_optStrListField 4 "relatedPatterns" (by decide) p.related
  exact ((((((hname.append htitle).append hcategory).append hlanguage).append hdescription).append
    hcode).append hnotes).append hrelated

end DocCatalog.Emit
