import DocCatalog.Proofs.Doc.TagLine

/-!
# Parameters are read back

The value of a parameter tag gives back its name and its description, whatever stands in front of the
name, in its default or in the description. A value that has another form is kept beside those that
have this one.

* **`WrittenParam`**: a value, part by part.
* **`parse?_type`**, **`parse?_bracket`**, **`parse?_name`**: a value is read from the left, and what
  stands in front of the name leaves nothing behind.
* **`parse?_text`**: the value is read back.
* **`Sorts`**, **`params_readBack`**: every value is in one of two lists.
-/

namespace DocCatalog.Doc

/-- A name stands by itself or in brackets, with or without a default. -/
inductive NameForm where
  | plain
  | bracketed
  | defaulted (default : List Char)

/-- A value as it is written: a type in braces, a name, and a description behind a dash. -/
structure WrittenParam where
  type? : Option (List Char)
  name : List Char
  form : NameForm
  before : List Char
  after : List Char
  description : List Char

namespace WrittenParam

/-- The type in its braces, and a space. -/
def typeText (p : WrittenParam) : List Char :=
  match p.type? with
  | some type => '{' :: (type ++ ['}', ' '])
  | none => []

/-- The name, in its brackets if it has any. -/
def nameText (p : WrittenParam) : List Char :=
  match p.form with
  | .plain => p.name
  | .bracketed => '[' :: (p.name ++ [']'])
  | .defaulted default => '[' :: (p.name ++ '=' :: (default ++ [']']))

/-- The dash, with the blanks around it. -/
def dashText (p : WrittenParam) : List Char := p.before ++ '-' :: p.after

/-- The whole value. -/
def text (p : WrittenParam) : List Char := p.typeText ++ p.nameText ++ p.dashText ++ p.description

/-- What is to be read from it. -/
def param (p : WrittenParam) : Param :=
  ⟨String.ofList p.name, String.ofList (Text.trim p.description)⟩

end WrittenParam

/-- The name begins with a letter, an underscore or a dollar sign, and has these, digits and points. -/
structure IsParamName (name : List Char) : Prop where
  first : (name.head?.any fun c => c.isAlpha || c == '_' || c == '$') = true
  chars : ∀ c ∈ name, (c.isAlphanum || c == '_' || c == '$' || c == '.') = true

/-- Every part ends where the next one begins. -/
structure WrittenParam.IsProper (p : WrittenParam) : Prop where
  type : ∀ type, p.type? = some type → '}' ∉ type
  name : IsParamName p.name
  default : ∀ default, p.form = .defaulted default → ']' ∉ default
  before : Text.IsBlanks p.before
  after : Text.IsBlanks p.after

/-! ## Names

The characters of a name are word characters, dollar signs and dots, so that a blank ends it, and so
does a bracket. -/

/-- A blank is no part of a name. -/
theorem isNamePart_of_isBlank {c : Char} (h : Text.isBlank c = true) : Param.isNamePart c = false := by
  refine Bool.eq_false_iff.mpr fun hpart => ?_
  rw [Param.isNamePart, Bool.or_eq_true, Bool.or_eq_true, or_assoc, beq_iff_eq, beq_iff_eq] at hpart
  rcases hpart with hword | rfl | rfl
  · have hnot := isBlank_of_isTagChar (c := c) (by rw [isTagChar, hword, Bool.true_or])
    rw [h] at hnot
    cases hnot
  all_goals
    revert h
    decide

theorem isWordChar_of_isAlphanum {c : Char} (h : (c.isAlphanum || c == '_') = true) :
    Text.isWordChar c = true := by
  have hname : isNameChar c = true := by rw [isNameChar, h, Bool.true_or]
  have hascii := toNat_of_isNameChar hname
  rw [Text.isWordChar, if_pos (by omega)]
  exact h

/-- All of a proper name is read as a name. -/
theorem IsParamName.isNamePart {name : List Char} (h : IsParamName name) :
    ∀ c ∈ name, Param.isNamePart c = true := by
  intro c hc
  have hchars := h.chars c hc
  rw [Bool.or_eq_true, Bool.or_eq_true] at hchars
  rw [Param.isNamePart, Bool.or_eq_true, Bool.or_eq_true]
  exact hchars.imp_left (Or.imp_left isWordChar_of_isAlphanum)

/-- A name begins with none of the characters that stand around names. -/
theorem IsParamName.exists_cons {name : List Char} (h : IsParamName name) :
    ∃ c rest, name = c :: rest ∧ Param.isNameStart c = true ∧ Text.isBlank c = false
      ∧ c ≠ '{' ∧ c ≠ '[' := by
  obtain ⟨c, hhead, hc⟩ := (Option.any_eq_true _ _).mp h.first
  obtain ⟨rest, rfl⟩ := List.head?_eq_some_iff.mp hhead
  have hpart := h.isNamePart c List.mem_cons_self
  refine ⟨c, rest, rfl, hc, Bool.eq_false_iff.mpr fun hblank => ?_, ?_, ?_⟩
  · rw [isNamePart_of_isBlank hblank] at hpart
    cases hpart
  all_goals
    rintro rfl
    revert hc
    decide

/-! ## Parts of a value

Each part is ended by a character that is not in it: the type by its brace, the default by its
bracket, and the name by a blank. -/

/-- Behind a type the value goes on. -/
theorem afterType?_type {type rest : List Char} (htype : '}' ∉ type)
    (hrest : ∀ c ∈ rest.head?, Text.isBlank c = false) :
    Param.afterType? ('{' :: (type ++ '}' :: ' ' :: rest)) = some rest := by
  have hclosed : (type ++ '}' :: ' ' :: rest).dropWhile (· != '}') = '}' :: ' ' :: rest :=
    Text.dropWhile_append_stop (fun c hc => bne_iff_ne.mpr fun heq => htype (heq ▸ hc))
      fun c hc => by
        cases hc
        rfl
  have hblank : Text.trimStart (' ' :: rest) = rest := by
    rw [Text.trimStart, List.dropWhile_cons_of_pos (by decide)]
    exact Text.trimStart_eq hrest
  rw [Param.afterType?, hclosed]
  exact congrArg some hblank

/-- A dash counts when there are blanks on both sides. -/
theorem afterDash?_cons {b a : Char} {s r : List Char} (h : Text.trimStart (b :: s) = '-' :: a :: r)
    (hb : Text.isBlank b = true) (ha : Text.isBlank a = true) :
    Param.afterDash? (b :: s) = some (a :: r) := by
  unfold Param.afterDash?
  rw [h]
  simp only [hb, ha, Bool.and_self, if_true]

/-- The description begins behind the first dash between blanks. -/
theorem afterDash?_blanks {before after : List Char} (hbefore : Text.IsBlanks before)
    (hafter : Text.IsBlanks after) (description : List Char) :
    Param.afterDash? (before ++ '-' :: (after ++ description)) = some (after ++ description) := by
  have hstart : Text.trimStart (before ++ '-' :: (after ++ description))
      = '-' :: (after ++ description) := by
    rw [Text.trimStart_append hbefore.blank]
    exact List.dropWhile_cons_of_neg (by decide)
  obtain ⟨b, bs, rfl⟩ := List.exists_cons_of_ne_nil hbefore.ne_nil
  obtain ⟨a, as, rfl⟩ := List.exists_cons_of_ne_nil hafter.ne_nil
  exact afterDash?_cons hstart (hbefore.blank b List.mem_cons_self) (hafter.blank a List.mem_cons_self)

/-- Without a bracket the dash is next. -/
theorem afterBracket?_of_ne {s : List Char} (h : s.head? ≠ some ']') :
    Param.afterBracket? s = Param.afterDash? s := by
  unfold Param.afterBracket?
  split
  · exact absurd rfl h
  · rfl

/-- A default ends at its closing bracket, whatever dashes there are in it. -/
theorem afterDefault?_closed {default rest found : List Char} (hdefault : ']' ∉ default)
    (hrest : Param.afterDash? rest = some found) :
    Param.afterDefault? (default ++ ']' :: rest) = some found := by
  induction default with
  | nil => exact hrest
  | cons c default ih =>
      -- a dash at this place would count only if the text behind it had none
      have hc : c ≠ ']' := fun heq => hdefault (heq ▸ List.mem_cons_self)
      have hbehind := ih fun hmem => hdefault (List.mem_cons_of_mem c hmem)
      rw [List.cons_append, Param.afterDefault?, if_neg (by simpa using hc), hbehind]
      rfl

/-! ## From the left

A value is read in one direction. What stands in front of the name is dropped step by step, and each
step leaves the same value to be read. -/

/-- Without a brace there is no type. -/
theorem afterType?_of_ne {s : List Char} (h : s.head? ≠ some '{') : Param.afterType? s = some s := by
  unfold Param.afterType?
  split
  · exact absurd rfl h
  · rfl

/-- The text behind an opening bracket, if there is one. -/
def unbracketed (s : List Char) : List Char :=
  match s with
  | '[' :: r => r
  | r => r

/-- What follows the name: a default, a bracket, or the dash at once. -/
def behindName? (s : List Char) : Option (List Char) :=
  match s with
  | '=' :: r => Param.afterDefault? r
  | r => Param.afterBracket? r

/-- The value from its name on. -/
def fromName? (s : List Char) : Option Param :=
  let name := s.takeWhile Param.isNamePart
  name.head?.bind fun first =>
    (behindName? (s.drop name.length)).bind fun description =>
      if Param.isNameStart first then
        some ⟨String.ofList name, String.ofList (Text.trim description)⟩
      else none

/-- The rest of the reading is the same in all of these cases. -/
theorem behindName?_bind (s : List Char) (f : List Char → Option Param) :
    (match s with
      | '=' :: r => (Param.afterDefault? r).bind f
      | r => (Param.afterBracket? r).bind f) = (behindName? s).bind f := by
  unfold behindName?
  split <;> rfl

/-- A value is read in three steps: the type, the bracket, and the name with what is behind it. -/
theorem parse?_eq (value : List Char) :
    Param.parse? value = (Param.afterType? value).bind fun s => fromName? (unbracketed s) := by
  unfold Param.parse? fromName?
  refine congrArg (Option.bind _) (funext fun s => congrArg (Option.bind _) (funext fun first => ?_))
  exact behindName?_bind _ _

/-- Without a bracket nothing is dropped. -/
theorem unbracketed_of_ne {s : List Char} (h : s.head? ≠ some '[') : unbracketed s = s := by
  unfold unbracketed
  split
  · exact absurd rfl h
  · rfl

/-- **A type leaves nothing behind.** -/
theorem parse?_type {type rest : List Char} (htype : '}' ∉ type)
    (hblank : ∀ c ∈ rest.head?, Text.isBlank c = false) (hbrace : rest.head? ≠ some '{') :
    Param.parse? ('{' :: (type ++ '}' :: ' ' :: rest)) = Param.parse? rest := by
  rw [parse?_eq, parse?_eq, afterType?_type htype hblank, afterType?_of_ne hbrace]

/-- **Nor does an opening bracket.** -/
theorem parse?_bracket {rest : List Char} (hbrace : rest.head? ≠ some '{')
    (hbracket : rest.head? ≠ some '[') : Param.parse? ('[' :: rest) = Param.parse? rest := by
  have hopen : ('[' :: rest).head? ≠ some '{' := by simp
  rw [parse?_eq, parse?_eq, afterType?_of_ne hbrace, afterType?_of_ne hopen, Option.bind_some,
    Option.bind_some, unbracketed_of_ne hbracket]
  rfl

/-- **A name ends** where no character of names follows, and what follows decides on the description. -/
theorem parse?_name {name rest description : List Char} (hname : IsParamName name)
    (hrest : ∀ c ∈ rest.head?, Param.isNamePart c = false)
    (hdescription : behindName? rest = some description) :
    Param.parse? (name ++ rest)
      = some ⟨String.ofList name, String.ofList (Text.trim description)⟩ := by
  have htake := Text.takeWhile_append_stop hname.isNamePart hrest
  obtain ⟨c, name, rfl, hc, -, hbrace, hbracket⟩ := hname.exists_cons
  rw [parse?_eq, afterType?_of_ne (by simpa using hbrace), Option.bind_some,
    unbracketed_of_ne (by simpa using hbracket), fromName?, htake, List.drop_left, hdescription,
    List.head?_cons, Option.bind_some, Option.bind_some, if_pos hc]

/-- Behind a plain name the dash is next. -/
theorem behindName?_blank {s : List Char} {b : Char} (hhead : s.head? = some b)
    (hb : Text.isBlank b = true) : behindName? s = Param.afterDash? s := by
  have hne : ∀ c, Text.isBlank c = false → s.head? ≠ some c := fun c hc heq => by
    rw [← Option.some.inj (hhead.symm.trans heq), hb] at hc
    cases hc
  unfold behindName?
  split
  · exact absurd rfl (hne '=' (by decide))
  · exact afterBracket?_of_ne (hne ']' (by decide))

/-! ## The round trip

A proper value is read in the three forms that its name can have. -/

variable {p : WrittenParam}

/-- A name begins with no blank and no brace, so that the type ends where it is said to. -/
theorem nameText_head (h : p.IsProper) (rest : List Char) :
    (∀ c ∈ (p.nameText ++ rest).head?, Text.isBlank c = false)
      ∧ (p.nameText ++ rest).head? ≠ some '{' := by
  obtain ⟨c, name, hname, -, hblank, hbrace, -⟩ := h.name.exists_cons
  have hbracket : Text.isBlank '[' = false := by decide
  unfold WrittenParam.nameText
  split <;> simp [hname, hblank, hbrace, hbracket]

/-- A value without a type is read back. -/
theorem parse?_nameText (h : p.IsProper) :
    Param.parse? (p.nameText ++ (p.dashText ++ p.description)) = some p.param := by
  have hdash : Param.afterDash? (p.dashText ++ p.description) = some (p.after ++ p.description) := by
    rw [WrittenParam.dashText, List.append_assoc, List.cons_append]
    exact afterDash?_blanks h.before h.after p.description
  have hblank : ∃ b, (p.dashText ++ p.description).head? = some b ∧ Text.isBlank b = true := by
    obtain ⟨b, bs, hbefore⟩ := List.exists_cons_of_ne_nil h.before.ne_nil
    refine ⟨b, by rw [WrittenParam.dashText, hbefore]; rfl, h.before.blank b ?_⟩
    rw [hbefore]
    exact List.mem_cons_self
  rw [WrittenParam.param, ← Text.trim_append h.after.blank]
  generalize p.dashText ++ p.description = rest at hdash hblank
  obtain ⟨b, hhead, hb⟩ := hblank
  obtain ⟨c, name, hname, -, -, hbrace, hbracket⟩ := h.name.exists_cons
  have hopen : ∀ behind, Param.parse? ('[' :: (p.name ++ behind)) = Param.parse? (p.name ++ behind) :=
    fun behind => parse?_bracket (by simpa [hname] using hbrace) (by simpa [hname] using hbracket)
  -- one case for each form, apart by what follows the name
  unfold WrittenParam.nameText
  split
  · refine parse?_name h.name (fun d hd => ?_) ((behindName?_blank hhead hb).trans hdash)
    rw [hhead] at hd
    cases hd
    exact isNamePart_of_isBlank hb
  · rw [List.cons_append, List.append_assoc, hopen]
    refine parse?_name h.name (fun d hd => ?_) hdash
    cases hd
    decide
  · next default hform =>
      rw [List.cons_append, List.append_assoc, hopen, List.cons_append, List.append_assoc]
      refine parse?_name h.name (fun d hd => ?_) (afterDefault?_closed (h.default default hform) hdash)
      cases hd
      decide

/-- **A value is read back**, whatever its type, its default and its description. -/
theorem parse?_text (h : p.IsProper) : Param.parse? p.text = some p.param := by
  rw [WrittenParam.text, List.append_assoc, List.append_assoc]
  unfold WrittenParam.typeText
  split
  · next type htype =>
      obtain ⟨hblank, hbrace⟩ := nameText_head h (p.dashText ++ p.description)
      rw [List.cons_append, List.append_assoc]
      exact (parse?_type (h.type type htype) hblank hbrace).trans (parse?_nameText h)
  · exact parse?_nameText h

/-! ## Comments

The values of a comment are gone through in order, and each one is on one of the two sides. -/

/-- Every value goes, in order, to the parameters that are read or to the values that are not. -/
inductive Sorts : List String → List Param → List String → Prop where
  | nil : Sorts [] [] []
  | matched {values unmatched : List String} {params : List Param} {value : String} {param : Param}
      (hvalue : Param.parse? value.toList = some param) (h : Sorts values params unmatched) :
      Sorts (value :: values) (param :: params) unmatched
  | unmatched {values unmatched : List String} {params : List Param} {value : String}
      (hvalue : Param.parse? value.toList = none) (h : Sorts values params unmatched) :
      Sorts (value :: values) params (value :: unmatched)

/-- No value is lost. -/
theorem Sorts.length_eq {values unmatched : List String} {params : List Param}
    (h : Sorts values params unmatched) : params.length + unmatched.length = values.length := by
  induction h with
  | nil => rfl
  | matched _ _ ih =>
      rw [List.length_cons, List.length_cons]
      omega
  | unmatched _ _ ih =>
      rw [List.length_cons, List.length_cons]
      omega

/-- **The program sorts its values** like this. -/
theorem sorts_values (values : List (List Char)) :
    Sorts (values.map String.ofList) (values.filterMap Param.parse?)
      ((values.filter fun v => (Param.parse? v).isNone).map String.ofList) := by
  induction values with
  | nil => exact .nil
  | cons value values ih =>
      cases hvalue : Param.parse? value with
      | some param =>
          rw [List.filterMap_cons_some hvalue, List.filter_cons_of_neg (by simp [hvalue])]
          exact .matched (by rw [String.toList_ofList, hvalue]) ih
      | none =>
          rw [List.filterMap_cons_none hvalue, List.filter_cons_of_pos (by simp [hvalue])]
          exact .unmatched (by rw [String.toList_ofList, hvalue]) ih

/-- The values of the tags with a name are those of its blocks. -/
theorem all_tags (d : DocComment) (name : String) :
    Tag.all d.tags name = ((d.blocksNamed name).map DocComment.tagValue).map String.ofList := by
  have hname : ∀ b : TagBlock, (String.ofList b.name == name) = (b.name == name.toList) := by
    intro b
    rw [Bool.eq_iff_iff, beq_iff_eq, beq_iff_eq, ← String.toList_inj, String.toList_ofList]
  rw [Tag.all, DocComment.tags, DocComment.blocksNamed, List.filter_map, List.map_map, List.map_map,
    List.map_map]
  congr 1
  exact List.filter_congr fun b _ => hname b

/-- **Parameters are read back and none is lost.** A value of the usual form says its name and its
description, and every value of a comment is read or kept as it is. -/
theorem params_readBack :
    (∀ p : WrittenParam, p.IsProper → Param.parse? p.text = some p.param)
      ∧ ∀ d : DocComment, Sorts (Tag.all d.tags "param") d.params d.unmatchedParams
        ∧ d.params.length + d.unmatchedParams.length
          = (d.tags.filter (·.name == "param")).length := by
  refine ⟨fun p h => parse?_text h, fun d => ?_⟩
  have hsorts : Sorts (Tag.all d.tags "param") d.params d.unmatchedParams := by
    rw [all_tags]
    exact sorts_values d.paramValues
  refine ⟨hsorts, hsorts.length_eq.trans ?_⟩
  rw [Tag.all, List.length_map]

/-- A type, a default and a description with dashes and brackets, and blanks other than spaces. -/
def dashedParam : WrittenParam where
  type? := some "\x7ba: number - 1".toList
  name := "$opts.depth".toList
  form := .defaulted "x - y [0".toList
  before := "\n\t".toList
  after := "\u00a0".toList
  description := " How - deep\n[or] not ] - at all ".toList

/-- A comment with values of both kinds, and with another tag between them. -/
def dashedComment : DocComment :=
  DocComment.parse
    "/**\n * @param a - x\n * @returns y\n * @param b\n * @param [c=1 -\n *   2] - z\n */"

/-- Dashes, brackets and braces stand here where they do not count, and one value has no dash. -/
theorem params_readBack_dashed :
    dashedParam.IsProper
      ∧ Param.parse? dashedParam.text = some ⟨"$opts.depth", "How - deep\n[or] not ] - at all"⟩
      ∧ Sorts ["a - x", "b", "[c=1 -\n2] - z"] [⟨"a", "x"⟩, ⟨"c", "z"⟩] ["b"]
      ∧ dashedComment.params.length + dashedComment.unmatchedParams.length = 3 := by
  have hproper : dashedParam.IsProper := by
    refine ⟨?_, ⟨by decide, List.all_eq_true.mp (by decide)⟩, ?_, by decide, by decide⟩
    · rintro _ ⟨⟩
      decide
    · rintro _ ⟨⟩
      decide
  have hvalues : Tag.all dashedComment.tags "param" = ["a - x", "b", "[c=1 -\n2] - z"] := by
    decide +kernel
  have hparams : dashedComment.params = [⟨"a", "x"⟩, ⟨"c", "z"⟩] := by decide +kernel
  have hunmatched : dashedComment.unmatchedParams = ["b"] := by decide +kernel
  obtain ⟨hread, hkept⟩ := params_readBack
  obtain ⟨hsorts, hlength⟩ := hkept dashedComment
  rw [hvalues, hparams, hunmatched] at hsorts
  have hcount : (dashedComment.tags.filter (·.name == "param")).length = 3 := by
    rw [← List.length_map (f := fun t : Tag => t.value)]
    exact congrArg List.length hvalues
  exact ⟨hproper, (hread dashedParam hproper).trans (by decide), hsorts, hlength.trans hcount⟩

end DocCatalog.Doc
