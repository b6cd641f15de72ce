import DocCatalog.Emit.Field
import DocCatalog.Proofs.Emit.Tells

/-!
# Fields that tell their values

A field tells its value. One that may be left out does so where no field of its name can follow.

* **`fieldHead`**, **`Without`**: what a field begins with, and texts that begin otherwise.
* **`Tells.optional`**: a field that may be left out.
* **`Tells.listField`**: a list tells its items.
* **`tells_strField`**, **`tells_strListField`** and so on: the fields of records.
-/

namespace DocCatalog.Emit

variable {α β : Type} {ok : α → Prop} {view : α → β} {write : α → List Char}

/-! ## Indentation

Behind a field that may be left out there is another field, or the bracket that closes the object.
Which of them it is can be told by how the text begins: a bracket is less indented than a field, and
names of fields differ. -/

/-- What a field begins with. -/
def fieldHead (indent : Nat) (name : String) : List Char :=
  List.replicate indent ' ' ++ (name.toList ++ [':', ' '])

/-- The last line of a list or an object. -/
def closing (indent : Nat) (bracket : Char) : List Char :=
  List.replicate indent ' ' ++ [bracket, ',', '\n']

/-- The text does not begin with a field of the name. -/
def Without (indent : Nat) (name : String) (x : List Char) : Prop := ¬ fieldHead indent name <+: x

theorem toList_spaces (n : Nat) : (spaces n).toList = List.replicate n ' ' := String.toList_ofList

/-- More blanks are not taken for fewer. -/
theorem deeper_ne (indent : Nat) {c : Char} (hc : c ≠ ' ') (x y : List Char) :
    List.replicate (indent + 2) ' ' ++ x ≠ List.replicate indent ' ' ++ c :: y := by
  intro h
  rw [← List.replicate_append_replicate, List.append_assoc] at h
  have hrest := List.append_cancel_left h
  exact hc (List.cons.inj hrest).1.symm

/-- The bracket behind the last field is no field. -/
theorem without_closing (indent : Nat) (name : String) {bracket : Char} (hc : bracket ≠ ' ')
    (x : List Char) : Without (indent + 2) name (closing indent bracket ++ x) := by
  rintro ⟨rest, h⟩
  simp only [fieldHead, closing, List.append_assoc, List.cons_append] at h
  exact deeper_ne indent hc _ _ h

/-- Neither name begins with the other, as they stand in front of a colon. -/
def NamesApart (name other : String) : Prop :=
  Apart (name.toList ++ [':', ' ']) (other.toList ++ [':', ' '])

instance (name other : String) : Decidable (NamesApart name other) :=
  inferInstanceAs (Decidable (Apart _ _))

/-- A field of another name is none of this name. -/
theorem without_field {indent : Nat} {name other : String} {s : List Char}
    (hnames : NamesApart name other) (hs : fieldHead indent other <+: s) (x : List Char) :
    Without indent name (s ++ x) :=
  (hnames.append_left (List.replicate indent ' ')).not_begins
    (hs.trans (List.prefix_append s x))

/-! ## Fields

A field begins with its name, which is fixed, and goes on with its value, which is told by what is
written. -/

theorem toList_sourceField (indent : Nat) (name value : String) :
    (sourceField indent name value).toList
      = fieldHead indent name ++ (value.toList ++ [',', '\n']) := by
  simp only [sourceField, fieldHead, String.toList_append, toList_spaces, List.append_assoc]
  rfl

theorem fieldHead_sourceField (indent : Nat) (name value : String) :
    fieldHead indent name <+: (sourceField indent name value).toList := by
  rw [toList_sourceField]
  exact List.prefix_append _ _

/-- A field tells what its value tells. -/
theorem tells_sourceField {source : α → String} (indent : Nat) (name : String)
    (h : Tells ok view fun a => (source a).toList) :
    Tells ok view fun a => (sourceField indent name (source a)).toList :=
  h.between (fieldHead indent name) [',', '\n'] fun _ => toList_sourceField _ _ _

/-- A literal tells its text. -/
theorem tells_strField (indent : Nat) (name : String) :
    TellsAll fun value => (strField indent name value).toList :=
  tells_sourceField indent name tells_quote

theorem tells_templateField (indent : Nat) (name : String) :
    TellsAll fun value => (templateField indent name value).toList :=
  tells_sourceField indent name tells_template

/-- **A field that may be left out** tells whether it was, where no field of its name can follow. -/
theorem Tells.optional {indent : Nat} {name : String} (hwrite : Tells ok view write)
    (hhead : ∀ a, fieldHead indent name <+: write a) {a b : Option α} (ha : ∀ v ∈ a, ok v)
    (hb : ∀ v ∈ b, ok v) {x y : List Char} (hx : Without indent name x)
    (hy : Without indent name y) (h : a.elim [] write ++ x = b.elim [] write ++ y) :
    a.map view = b.map view ∧ x = y := by
  -- a value on one side only would make the other side begin with the field
  have hne : ∀ (v : α) {s t : List Char}, Without indent name s → s ≠ write v ++ t := by
    rintro v s t hs rfl
    exact hs ((hhead v).trans (List.prefix_append _ _))
  cases a with
  | none =>
      cases b with
      | none => exact ⟨rfl, h⟩
      | some w => exact absurd h (hne w hx)
  | some v =>
      cases b with
      | none => exact absurd h.symm (hne v hy)
      | some w =>
          obtain ⟨hview, hxy⟩ := hwrite (ha v rfl) (hb w rfl) h
          exact ⟨by rw [Option.map_some, Option.map_some, hview], hxy⟩

theorem TellsAll.optional {indent : Nat} {name : String} (hwrite : TellsAll write)
    (hhead : ∀ a, fieldHead indent name <+: write a) {a b : Option α} {x y : List Char}
    (hx : Without indent name x) (hy : Without indent name y)
    (h : a.elim [] write ++ x = b.elim [] write ++ y) : a = b ∧ x = y := by
  obtain ⟨hmap, hxy⟩ :=
    Tells.optional hwrite hhead (fun _ _ => trivial) (fun _ _ => trivial) hx hy h
  rw [Option.map_id] at hmap
  exact ⟨hmap, hxy⟩

/-- A field that may be left out, in the form in which it tells its value. -/
theorem toList_optStrField (indent : Nat) (name : String) (value : Option String) :
    (optStrField indent name value).toList
      = value.elim [] fun v => (strField indent name v).toList := by
  cases value with
  | none => exact String.toList_empty
  | some v => rfl

/-- A text that may be left out is told where no field of its name follows. -/
theorem optStrField_eq {indent : Nat} {name : String} {v w : Option String} {x y : List Char}
    (hx : Without indent name x) (hy : Without indent name y)
    (h : (optStrField indent name v).toList ++ x = (optStrField indent name w).toList ++ y) :
    v = w ∧ x = y := by
  rw [toList_optStrField, toList_optStrField] at h
  exact (tells_strField indent name).optional (fun _ => fieldHead_sourceField _ _ _) hx hy h

/-- A field that is there or not. -/
theorem flagField_eq {indent : Nat} {name value : String} {b c : Bool} {x y : List Char}
    (hx : Without indent name x) (hy : Without indent name y)
    (h : (if b then sourceField indent name value else "").toList ++ x
      = (if c then sourceField indent name value else "").toList ++ y) : b = c ∧ x = y := by
  have htext : ∀ b : Bool, (if b then sourceField indent name value else "").toList
      = (if b then some () else none).elim [] fun _ => (sourceField indent name value).toList := by
    intro b
    cases b with
    | true => rfl
    | false => exact String.toList_empty
  have hfield : TellsAll fun _ : Unit => (sourceField indent name value).toList :=
    fun _ _ _ _ _ _ h => ⟨rfl, List.append_cancel_left h⟩
  rw [htext, htext] at h
  obtain ⟨hflag, hxy⟩ := hfield.optional (fun _ => fieldHead_sourceField _ _ _) hx hy h
  refine ⟨?_, hxy⟩
  cases b <;> cases c <;> simp_all

/-! ## Lists

The bracket behind the last item is less indented than the items, so that it is clear how many of
them there are. -/

/-- The characters of a list. One without items has its brackets on one line. -/
theorem toList_listField (indent : Nat) (name : String) (items : List String) :
    (listField indent name items).toList
      = fieldHead indent name ++ ('[' ::
          (if items.isEmpty then [']', ',', '\n']
            else '\n' :: (items.flatMap String.toList ++ closing indent ']'))) := by
  unfold listField
  split
  · rw [toList_sourceField]
    rfl
  · simp only [String.toList_append, toList_spaces, String.toList_join, fieldHead, closing,
      List.append_assoc]
    rfl

theorem fieldHead_listField (indent : Nat) (name : String) (items : List String) :
    fieldHead indent name <+: (listField indent name items).toList := by
  rw [toList_listField]
  exact List.prefix_append _ _

/-- **A list tells its items**, which have lines of their own and more blanks in front. -/
theorem Tells.listField {item : α → String} {indent : Nat} {name : String}
    (hitem : Tells ok view fun a => (item a).toList)
    (hdeep : ∀ a, List.replicate (indent + 2) ' ' <+: (item a).toList) :
    Tells (fun as => ∀ a ∈ as, ok a) (List.map view)
      fun as => (listField indent name (as.map item)).toList := by
  have hstop : NeverBegins ok (fun a => (item a).toList) (closing indent ']') := by
    intro a _ x y h
    obtain ⟨rest, hrest⟩ := hdeep a
    simp only [← hrest, closing, List.append_assoc, List.cons_append] at h
    exact deeper_ne indent (by decide) _ _ h
  intro as bs has hbs x y h
  simp only [toList_listField, List.isEmpty_map, List.flatMap_map, List.append_assoc,
    List.cons_append] at h
  have hrest := (List.cons.inj (List.append_cancel_left h)).2
  -- the two layouts differ in the character behind the bracket
  cases as with
  | nil =>
      cases bs with
      | nil => exact ⟨rfl, List.append_cancel_left hrest⟩
      | cons b bs => exact absurd (List.cons.inj hrest).1 (by decide)
  | cons a as =>
      cases bs with
      | nil => exact absurd (List.cons.inj hrest).1 (by decide)
      | cons b bs =>
          simp only [List.isEmpty_cons, Bool.false_eq_true, if_false, List.cons_append,
            List.cons.injEq, true_and, List.append_assoc] at hrest
          exact hitem.flatMap hstop has hbs hrest

theorem TellsAll.listField {item : α → String} {indent : Nat} {name : String}
    (hitem : TellsAll fun a => (item a).toList)
    (hdeep : ∀ a, List.replicate (indent + 2) ' ' <+: (item a).toList) :
    TellsAll fun as : List α => (listField indent name (as.map item)).toList := by
  intro as bs _ _ x y h
  obtain ⟨hmap, hxy⟩ :=
    Tells.listField hitem hdeep (fun _ _ => trivial) (fun _ _ => trivial) h
  rw [List.map_id, List.map_id] at hmap
  exact ⟨hmap, hxy⟩

theorem toList_itemLine (indent : Nat) (item : String) :
    (itemLine indent item).toList = List.replicate indent ' ' ++ (item.toList ++ [',', '\n']) := by
  simp only [itemLine, String.toList_append, toList_spaces, List.append_assoc]
  rfl

theorem replicate_itemLine (indent : Nat) (item : String) :
    List.replicate indent ' ' <+: (itemLine indent item).toList := by
  rw [toList_itemLine]
  exact List.prefix_append _ _

/-- An item tells what its literal tells. -/
theorem tells_itemLine {literal : α → String} (indent : Nat)
    (h : Tells ok view fun a => (literal a).toList) :
    Tells ok view fun a => (itemLine indent (literal a)).toList :=
  h.between (List.replicate indent ' ') [',', '\n'] fun _ => toList_itemLine _ _

/-- A list of literals tells its texts. -/
theorem tells_strListField (indent : Nat) (name : String) :
    TellsAll fun items => (strListField indent name items).toList :=
  TellsAll.listField (tells_itemLine (indent + 2) tells_quote) fun _ => replicate_itemLine _ _

theorem tells_templateListField (indent : Nat) (name : String) :
    TellsAll fun items => (templateListField indent name items).toList :=
  TellsAll.listField (tells_itemLine (indent + 2) tells_template) fun _ => replicate_itemLine _ _

/-- The list, unless it is empty. -/
def nonEmpty? (items : List α) : Option (List α) := if items.isEmpty then none else some items

/-- Leaving out the empty list loses nothing. -/
theorem nonEmpty?_inj {as bs : List α} (h : nonEmpty? as = nonEmpty? bs) : as = bs := by
  cases as <;> cases bs <;> simp_all [nonEmpty?]

/-- A list that is left out when it is empty, in the form in which it tells its items. -/
theorem toList_optStrListField (indent : Nat) (name : String) (items : List String) :
    (optStrListField indent name items).toList
      = (nonEmpty? items).elim [] fun items => (strListField indent name items).toList := by
  cases items with
  | nil => exact String.toList_empty
  | cons item items => rfl

theorem optStrListField_eq {indent : Nat} {name : String} {as bs : List String} {x y : List Char}
    (hx : Without indent name x) (hy : Without indent name y)
    (h : (optStrListField indent name as).toList ++ x
      = (optStrListField indent name bs).toList ++ y) : as = bs ∧ x = y := by
  rw [toList_optStrListField, toList_optStrListField] at h
  obtain ⟨hitems, hxy⟩ :=
    (tells_strListField indent name).optional (fun _ => fieldHead_listField _ _ _) hx hy h
  exact ⟨nonEmpty?_inj hitems, hxy⟩

/-- A list that may be left out is no field of another name, nor is what stands behind it. -/
theorem without_optStrListField {indent : Nat} {name other : String} (hnames : NamesApart name other)
    (items : List String) {x : List Char} (hx : Without indent name x) :
    Without indent name ((optStrListField indent other items).toList ++ x) := by
  unfold optStrListField
  split
  · rw [String.toList_empty]
    exact hx
  · exact without_field hnames (fieldHead_listField indent other _) x

/-! ## Objects

Objects are items of lists, so they have to be indented like these. -/

theorem toList_objectItem (indent : Nat) (fields : String) :
    (objectItem indent fields).toList
      = List.replicate indent ' ' ++ ('\x7b' :: '\n' :: (fields.toList ++ closing indent '\x7d')) := by
  simp only [objectItem, closing, String.toList_append, toList_spaces, List.append_assoc]
  rfl

theorem replicate_objectItem (indent : Nat) (fields : String) :
    List.replicate indent ' ' <+: (objectItem indent fields).toList := by
  rw [toList_objectItem]
  exact List.prefix_append _ _

end DocCatalog.Emit
