import DocCatalog.Emit.Commands
import DocCatalog.Emit.Components
import DocCatalog.Emit.Patterns
import DocCatalog.Proofs.Emit.Fields

/-!
# Entries that tell their records

The fields of an entry are read one after the other, up to the line that closes it.

* **`ComponentRecord.shown`**, **`CommandRecord.shown`**, **`PatternRecord.shown`**: what an entry
  says of a record.
* **`Components.tells_fields`**, **`Commands.tells_fields`**, **`Patterns.tells_fields`**: entries
  tell what they say.
-/

namespace DocCatalog

/-- No place at all. -/
def Provenance.nowhere : Provenance := ⟨"", 0⟩

/-- Nothing is said of where a component was declared, and no usage is an empty one. -/
def ComponentRecord.shown (c : ComponentRecord) : ComponentRecord :=
  { c with usage := some (c.usage.getD ""), provenance := .nowhere }

/-- All but where the command was found. -/
def CommandRecord.shown (c : CommandRecord) : CommandRecord := { c with provenance := .nowhere }

/-- All but where the pattern was found. -/
def PatternRecord.shown (p : PatternRecord) : PatternRecord := { p with provenance := .nowhere }

/-- A number that cannot be taken for anything else, and that ends where a comma follows. -/
structure PlainNumber (text : String) : Prop where
  noComma : ',' ∉ text.toList
  noQuote : text.toList.head? ≠ some '\''
  noTrue : text ≠ "true"
  noFalse : text ≠ "false"

/-- A number among defaults is plain. -/
def OptionDefault.IsPlain (d : OptionDefault) : Prop := ∀ text, d = .number text → PlainNumber text

/-- A number that is its default is written plainly. -/
def CommandOption.IsPlain (o : CommandOption) : Prop := ∀ d ∈ o.default?, d.IsPlain

/-- All of its options are plain. -/
def CommandRecord.IsPlain (c : CommandRecord) : Prop := ∀ o ∈ c.options, o.IsPlain

namespace Emit

/-! ## Words

Truth values and types of options are written as words, which differ from each other and end at the
comma. -/

/-- A truth value is told by its word. -/
theorem tells_bool : TellsAll fun b : Bool => (if b then "true" else "false").toList := by
  have hapart : Apart "true".toList "false".toList := by decide
  intro a b _ _ x y h
  cases a with
  | true =>
      cases b with
      | true => exact ⟨rfl, List.append_cancel_left h⟩
      | false => exact absurd h (hapart.append_ne x y)
  | false =>
      cases b with
      | true => exact absurd h.symm (hapart.append_ne y x)
      | false => exact ⟨rfl, List.append_cancel_left h⟩

/-- The types of options have different words. -/
theorem optionType_text_inj {s t : OptionType} (h : s.text = t.text) : s = t := by
  cases s <;> cases t <;> first | rfl | exact absurd h (by decide)

/-! ## Components

The fields stand in a fixed order. Of those that may be left out each is told by the one that
follows. -/

namespace Components

theorem tells_inputItem : TellsAll fun i => (inputItem i).toList := by
  intro a b _ _ x y h
  simp only [inputItem, toList_objectItem, String.toList_append, List.append_assoc,
    List.cons_append, List.append_cancel_left_eq, List.cons.injEq, true_and] at h
  obtain ⟨hname, h⟩ := (tells_strField 8 "name").eq h
  obtain ⟨htype, h⟩ := (tells_strField 8 "type").eq h
  -- the description follows a default, and the end of the object follows `required`
  have hbehindDefault : ∀ description rest,
      Without 8 "default" ((strField 8 "description" description).toList ++ rest) :=
    fun _ rest => without_field (by decide) (fieldHead_sourceField _ _ _) rest
  obtain ⟨hdefault, h⟩ := optStrField_eq (hbehindDefault _ _) (hbehindDefault _ _) h
  obtain ⟨hdescription, h⟩ := (tells_strField 8 "description").eq h
  have hbehindRequired : ∀ rest, Without 8 "required" (closing 6 '\x7d' ++ rest) :=
    without_closing 6 "required" (by decide)
  obtain ⟨hrequired, h⟩ := flagField_eq (hbehindRequired _) (hbehindRequired _) h
  refine ⟨?_, List.append_cancel_left h⟩
  cases a
  cases b
  simp only [id, ComponentInput.mk.injEq]
  exact ⟨hname, htype, hdefault, hdescription, hrequired⟩

theorem tells_outputItem : TellsAll fun o => (outputItem o).toList := by
  intro a b _ _ x y h
  simp only [outputItem, toList_objectItem, String.toList_append, List.append_assoc,
    List.cons_append, List.append_cancel_left_eq, List.cons.injEq, true_and] at h
  obtain ⟨hname, h⟩ := (tells_strField 8 "name").eq h
  obtain ⟨htype, h⟩ := (tells_strField 8 "type").eq h
  obtain ⟨hdescription, h⟩ := (tells_strField 8 "description").eq h
  refine ⟨?_, List.append_cancel_left h⟩
  cases a
  cases b
  simp only [id, ComponentOutput.mk.injEq]
  exact ⟨hname, htype, hdescription⟩

theorem tells_inputs :
    TellsAll fun inputs : List ComponentInput =>
      (listField 4 "inputs" (inputs.map inputItem)).toList :=
  tells_inputItem.listField fun _ => replicate_objectItem 6 _

theorem tells_outputs :
    TellsAll fun outputs : List ComponentOutput =>
      (listField 4 "outputs" (outputs.map outputItem)).toList :=
  tells_outputItem.listField fun _ => replicate_objectItem 6 _

/-- **The entry of a component** tells all but where it was declared. -/
theorem tells_fields :
    Tells (fun _ => True) ComponentRecord.shown fun c => (fields c).toList ++ closing 2 '\x7d' := by
  intro a b _ _ x y h
  simp only [fields, String.toList_append, List.append_assoc] at h
  obtain ⟨hname, h⟩ := (tells_strField 4 "name").eq h
  obtain ⟨hselector, h⟩ := (tells_strField 4 "selector").eq h
  obtain ⟨hcategory, h⟩ := (tells_strField 4 "category").eq h
  obtain ⟨hdescription, h⟩ := (tells_strField 4 "description").eq h
  obtain ⟨hinputs, h⟩ := tells_inputs.eq h
  obtain ⟨houtputs, h⟩ := tells_outputs.eq h
  obtain ⟨husage, h⟩ := (tells_templateField 4 "usage").eq h
  -- both lists at the end may be left out
  have hend : ∀ name rest, Without 4 name (closing 2 '\x7d' ++ rest) :=
    fun name => without_closing 2 name (by decide)
  have hbehindPractices : ∀ related rest, Without 4 "bestPractices"
      ((optStrListField 4 "relatedComponents" related).toList ++ (closing 2 '\x7d' ++ rest)) :=
    fun related rest => without_optStrListField (by decide) related (hend _ rest)
  obtain ⟨hpractices, h⟩ := optStrListField_eq (hbehindPractices _ _) (hbehindPractices _ _) h
  obtain ⟨hrelated, h⟩ := optStrListField_eq (hend _ _) (hend _ _) h
  refine ⟨?_, List.append_cancel_left h⟩
  simp only [ComponentRecord.shown, ComponentRecord.mk.injEq, Option.some.injEq, and_true]
  exact ⟨hname, hselector, hcategory, hdescription, hinputs, houtputs, husage, hpractices, hrelated⟩

end Components

/-! ## Commands

The default of an option is a literal or a word, and a literal begins with a quote. -/

namespace Commands

/-- A default that is no literal: a comma ends it. -/
structure IsWord (d : OptionDefault) : Prop where
  noStr : ∀ s, d ≠ .str s
  noComma : ',' ∉ (defaultLiteral d).toList
  noQuote : (defaultLiteral d).toList.head? ≠ some '\''

theorem str_or_word {d : OptionDefault} (hd : d.IsPlain) :
    (∃ s, d = .str s) ∨ IsWord d := by
  cases d with
  | str s => exact Or.inl ⟨s, rfl⟩
  | bool b =>
      refine Or.inr ⟨fun _ h => (nomatch h), ?_, ?_⟩
      · cases b <;> decide
      · cases b <;> decide
  | number text =>
      exact Or.inr ⟨fun _ h => (nomatch h), (hd text rfl).noComma, (hd text rfl).noQuote⟩

/-- A literal begins with its quote. -/
theorem head?_quote (s : String) (x : List Char) : ((quote s).toList ++ x).head? = some '\'' := by
  rw [toList_quote]
  rfl

/-- A word with a comma behind it does not. -/
theorem head?_word {w x : List Char} (hw : w.head? ≠ some '\'') :
    (w ++ ',' :: x).head? ≠ some '\'' := by
  cases w with
  | nil =>
      show some ',' ≠ some '\''
      decide
  | cons c w => exact hw

/-- Different words are written differently. -/
theorem word_inj {d e : OptionDefault} (hd : d.IsPlain) (he : e.IsPlain) (hword : IsWord d)
    (hword' : IsWord e) (h : defaultLiteral d = defaultLiteral e) : d = e := by
  -- a number is written unlike the two words
  have hnumber : ∀ (b : Bool) {text : String}, PlainNumber text →
      (if b then "true" else "false") ≠ text := by
    rintro b text htext rfl
    cases b with
    | true => exact htext.noTrue rfl
    | false => exact htext.noFalse rfl
  cases d with
  | str s => exact absurd rfl (hword.noStr s)
  | bool b =>
      cases e with
      | str s => exact absurd rfl (hword'.noStr s)
      | bool c =>
          have hbool := (tells_bool.eq (congrArg (fun s => s.toList ++ []) h)).1
          rw [hbool]
      | number text => exact absurd h (hnumber b (he text rfl))
  | number text =>
      cases e with
      | str s => exact absurd rfl (hword'.noStr s)
      | bool b => exact absurd h.symm (hnumber b (hd text rfl))
      | number other => exact congrArg OptionDefault.number h

/-- **A default tells itself**, where it is a field and its number is plain. -/
theorem tells_default :
    Tells OptionDefault.IsPlain id
      fun d => (sourceField 8 "default" (defaultLiteral d)).toList := by
  intro d e hd he x y h
  simp only [toList_sourceField, List.append_assoc, List.cons_append, List.nil_append,
    List.append_cancel_left_eq] at h
  -- the first character says whether it is a literal
  have hhead := congrArg List.head? h
  rcases str_or_word hd with ⟨s, rfl⟩ | hword
  · rcases str_or_word he with ⟨t, rfl⟩ | hword'
    · obtain ⟨rfl, hrest⟩ := tells_quote.eq h
      simp only [List.cons.injEq, true_and] at hrest
      exact ⟨rfl, hrest⟩
    · rw [defaultLiteral, head?_quote] at hhead
      exact absurd hhead.symm (head?_word hword'.noQuote)
  · rcases str_or_word he with ⟨t, rfl⟩ | hword'
    · rw [defaultLiteral.eq_def (.str t), head?_quote] at hhead
      exact absurd hhead (head?_word hword.noQuote)
    · obtain ⟨htext, hrest⟩ := eq_of_append_stop hword.noComma hword'.noComma h
      exact ⟨word_inj hd he hword hword' (String.toList_inj.mp htext), (List.cons.inj hrest).2⟩

theorem tells_argumentItem : TellsAll fun a => (argumentItem a).toList := by
  intro a b _ _ x y h
  simp only [argumentItem, toList_objectItem, String.toList_append, List.append_assoc,
    List.cons_append, List.append_cancel_left_eq, List.cons.injEq, true_and] at h
  obtain ⟨hname, h⟩ := (tells_strField 8 "name").eq h
  obtain ⟨hdescription, h⟩ := (tells_strField 8 "description").eq h
  obtain ⟨hrequired, h⟩ := TellsAll.eq (tells_sourceField 8 "required" tells_bool) h
  refine ⟨?_, List.append_cancel_left h⟩
  cases a
  cases b
  simp only [id, CommandArgument.mk.injEq]
  exact ⟨hname, hdescription, hrequired⟩

/-- An option with its default as a field that may be left out. -/
theorem toList_optionItem (o : CommandOption) :
    (optionItem o).toList
      = (objectItem 6 (strField 8 "name" o.name ++ optStrField 8 "alias" o.alias?
          ++ strField 8 "type" o.type.text
          ++ (o.default?.elim "" fun d => sourceField 8 "default" (defaultLiteral d))
          ++ strField 8 "description" o.description ++ optStrListField 8 "choices" o.choices)).toList := by
  unfold optionItem
  cases o.default? with
  | none => rfl
  | some d => rfl

/-- The default of an option is a field that may be left out. -/
theorem toList_defaultField (d? : Option OptionDefault) :
    (d?.elim "" fun d => sourceField 8 "default" (defaultLiteral d)).toList
      = d?.elim [] fun d => (sourceField 8 "default" (defaultLiteral d)).toList := by
  cases d? with
  | none => exact String.toList_empty
  | some d => rfl

/-- **An option tells itself** when its default does. -/
theorem tells_optionItem : Tells CommandOption.IsPlain id fun o => (optionItem o).toList := by
  intro a b ha hb x y h
  simp only [toList_optionItem, toList_objectItem, String.toList_append, toList_defaultField,
    List.append_assoc, List.cons_append, List.append_cancel_left_eq, List.cons.injEq,
    true_and] at h
  obtain ⟨hname, h⟩ := (tells_strField 8 "name").eq h
  -- three fields may be left out: what stands behind each has another name, or ends the object
  have hbehindAlias : ∀ type rest, Without 8 "alias" ((strField 8 "type" type).toList ++ rest) :=
    fun _ rest => without_field (by decide) (fieldHead_sourceField _ _ _) rest
  obtain ⟨halias, h⟩ := optStrField_eq (hbehindAlias _ _) (hbehindAlias _ _) h
  obtain ⟨htype, h⟩ := (tells_strField 8 "type").eq h
  have hbehindDefault : ∀ description rest,
      Without 8 "default" ((strField 8 "description" description).toList ++ rest) :=
    fun _ rest => without_field (by decide) (fieldHead_sourceField _ _ _) rest
  obtain ⟨hdefault, h⟩ := tells_default.optional (fun _ => fieldHead_sourceField _ _ _) ha hb
    (hbehindDefault _ _) (hbehindDefault _ _) h
  rw [Option.map_id] at hdefault
  obtain ⟨hdescription, h⟩ := (tells_strField 8 "description").eq h
  have hend : ∀ rest, Without 8 "choices" (closing 6 '\x7d' ++ rest) :=
    without_closing 6 "choices" (by decide)
  obtain ⟨hchoices, h⟩ := optStrListField_eq (hend _) (hend _) h
  refine ⟨?_, List.append_cancel_left h⟩
  cases a
  cases b
  simp only [id, CommandOption.mk.injEq]
  exact ⟨hname, halias, optionType_text_inj htype, hdefault, hdescription, hchoices⟩

theorem tells_arguments :
    TellsAll fun arguments : List CommandArgument =>
      (listField 4 "arguments" (arguments.map argumentItem)).toList :=
  tells_argumentItem.listField fun _ => replicate_objectItem 6 _

theorem tells_options :
    Tells (fun options => ∀ o ∈ options, o.IsPlain) (List.map id) fun options : List CommandOption =>
      (listField 4 "options" (options.map optionItem)).toList :=
  tells_optionItem.listField fun _ => replicate_objectItem 6 _

/-- **The entry of a command** tells all but where it was declared. -/
theorem tells_fields :
    Tells CommandRecord.IsPlain CommandRecord.shown
      fun c => (fields c).toList ++ closing 2 '\x7d' := by
  intro a b ha hb x y h
  simp only [fields, String.toList_append, List.append_assoc] at h
  obtain ⟨hname, h⟩ := (tells_strField 4 "name").eq h
  -- a field that may be left out is told by the name of the next field, which is not its own
  have hbehindAlias : ∀ description rest,
      Without 4 "alias" ((strField 4 "description" description).toList ++ rest) :=
    fun _ rest => without_field (by decide) (fieldHead_sourceField _ _ _) rest
  obtain ⟨halias, h⟩ := optStrField_eq (hbehindAlias _ _) (hbehindAlias _ _) h
  obtain ⟨hdescription, h⟩ := (tells_strField 4 "description").eq h
  obtain ⟨husage, h⟩ := (tells_strField 4 "usage").eq h
  obtain ⟨harguments, h⟩ := tells_arguments.eq h
  obtain ⟨hoptions, h⟩ := tells_options ha hb h
  rw [List.map_id, List.map_id] at hoptions
  obtain ⟨hexamples, h⟩ := (tells_templateListField 4 "examples").eq h
  have hend : ∀ rest, Without 4 "notes" (closing 2 '\x7d' ++ rest) :=
    without_closing 2 "notes" (by decide)
  obtain ⟨hnotes, h⟩ := optStrListField_eq (hend _) (hend _) h
  refine ⟨?_, List.append_cancel_left h⟩
  simp only [CommandRecord.shown, CommandRecord.mk.injEq, and_true]
  exact ⟨hname, halias, hdescription, husage, harguments, hoptions, hexamples, hnotes⟩

end Commands

/-! ## Patterns

A pattern has its code in a template literal and no fields that are lists of objects. -/

/-- **The entry of a pattern** tells all but where it was declared. -/
theorem Patterns.tells_fields :
    Tells (fun _ => True) PatternRecord.shown
      fun p => (Patterns.fields p).toList ++ closing 2 '\x7d' := by
  intro a b _ _ x y h
  simp only [Patterns.fields, String.toList_append, List.append_assoc] at h
  obtain ⟨hname, h⟩ := (tells_strField 4 "name").eq h
  obtain ⟨htitle, h⟩ := (tells_strField 4 "title").eq h
  obtain ⟨hcategory, h⟩ := (tells_strField 4 "category").eq h
  obtain ⟨hlanguage, h⟩ := (tells_strField 4 "language").eq h
  obtain ⟨hdescription, h⟩ := (tells_strField 4 "description").eq h
  obtain ⟨hcode, h⟩ := (tells_templateField 4 "code").eq h
  -- both fields at the end may be left out, so behind the first stands the second or the bracket
  have hend : ∀ name rest, Without 4 name (closing 2 '\x7d' ++ rest) :=
    fun name => without_closing 2 name (by decide)
  have hbehindNotes : ∀ related rest, Without 4 "notes"
      ((optStrListField 4 "relatedPatterns" related).toList ++ (closing 2 '\x7d' ++ rest)) :=
    fun related rest => without_optStrListField (by decide) related (hend _ rest)
  obtain ⟨hnotes, h⟩ := optStrListField_eq (hbehindNotes _ _) (hbehindNotes _ _) h
  obtain ⟨hrelated, h⟩ := optStrListField_eq (hend _ _) (hend _ _) h
  refine ⟨?_, List.append_cancel_left h⟩
  simp only [PatternRecord.shown, PatternRecord.mk.injEq, and_true]
  exact ⟨hname, htitle, hcategory, hlanguage, hdescription, hcode, hnotes, hrelated⟩

end Emit

end DocCatalog
