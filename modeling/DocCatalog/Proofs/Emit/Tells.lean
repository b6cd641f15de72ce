import DocCatalog.Emit.Literal

/-!
# Texts that tell what they were written for

A text that says where it ends can stand in front of any other text, and both can still be told apart.

* **`Tells`**: what is written of a value tells what it was, whatever stands behind it.
* **`Tells.flatMap`**: so does a list of such texts, when its end cannot be taken for one more of them.
* **`Apart`**: texts of which neither begins with the other.
* **`tells_quote`**, **`tells_template`**: literals tell the text that they stand for.
-/

namespace DocCatalog.Emit

variable {α β : Type} {ok : α → Prop} {view : α → β} {write : α → List Char}

/-- What is written of a value tells where it ends and what `view` shows of the value. -/
def Tells (ok : α → Prop) (view : α → β) (write : α → List Char) : Prop :=
  ∀ ⦃a b : α⦄, ok a → ok b → ∀ ⦃x y : List Char⦄,
    write a ++ x = write b ++ y → view a = view b ∧ x = y

/-- What is written of a value tells all of it. -/
def TellsAll (write : α → List Char) : Prop := Tells (fun _ => True) id write

/-- What is written of two values with something behind it is the same only for the same value with
the same behind it. -/
theorem TellsAll.eq (h : TellsAll write) {a b : α} {x y : List Char}
    (heq : write a ++ x = write b ++ y) : a = b ∧ x = y :=
  h trivial trivial heq

/-- A fixed text in front of it and one behind it change nothing. -/
theorem Tells.between {write' : α → List Char} (h : Tells ok view write) (start rest : List Char)
    (hwrite : ∀ a, write' a = start ++ (write a ++ rest)) : Tells ok view write' := by
  intro a b ha hb x y heq
  simp only [hwrite, List.append_assoc] at heq
  obtain ⟨hview, hrest⟩ := h ha hb (List.append_cancel_left heq)
  exact ⟨hview, List.append_cancel_left hrest⟩

/-- Nothing that may be written can be taken for `stop`. -/
def NeverBegins (ok : α → Prop) (write : α → List Char) (stop : List Char) : Prop :=
  ∀ ⦃a : α⦄, ok a → ∀ x y : List Char, write a ++ x ≠ stop ++ y

/-! ## Lists

A list is read item by item. It is clear where it ends if no item begins like what stands behind the
list. -/

/-- **A list tells its items** when its end cannot be taken for one more of them. -/
theorem Tells.flatMap {stop : List Char} (hwrite : Tells ok view write)
    (hstop : NeverBegins ok write stop) {as bs : List α} (has : ∀ a ∈ as, ok a)
    (hbs : ∀ b ∈ bs, ok b) {x y : List Char}
    (h : as.flatMap write ++ (stop ++ x) = bs.flatMap write ++ (stop ++ y)) :
    as.map view = bs.map view ∧ x = y := by
  -- both lists are read in step: they have to stop together
  induction as generalizing bs with
  | nil =>
      cases bs with
      | nil => exact ⟨rfl, List.append_cancel_left h⟩
      | cons b bs =>
          rw [List.flatMap_cons, List.append_assoc] at h
          exact absurd h.symm (hstop (hbs b List.mem_cons_self) _ _)
  | cons a as ih =>
      have ha := has a List.mem_cons_self
      rw [List.flatMap_cons, List.append_assoc] at h
      cases bs with
      | nil => exact absurd h (hstop ha _ _)
      | cons b bs =>
          rw [List.flatMap_cons, List.append_assoc] at h
          obtain ⟨hhead, hrest⟩ := hwrite ha (hbs b List.mem_cons_self) h
          obtain ⟨htail, hxy⟩ := ih (fun a ha => has a (List.mem_cons_of_mem _ ha))
            (fun b hb => hbs b (List.mem_cons_of_mem _ hb)) hrest
          exact ⟨by rw [List.map_cons, List.map_cons, hhead, htail], hxy⟩

/-- A text goes on up to the first `stop`. -/
theorem eq_of_append_stop {stop : Char} {a b : List Char} (ha : stop ∉ a) (hb : stop ∉ b)
    {x y : List Char} (h : a ++ stop :: x = b ++ stop :: y) : a = b ∧ x = y := by
  -- characters but `stop` are written as they are
  have hplain : Tells (fun c => c ≠ stop) id fun c => [c] := by
    intro c d _ _ x y h
    exact List.cons.inj h
  have hstop : NeverBegins (fun c => c ≠ stop) (fun c => [c]) [stop] := by
    intro c hc x y h
    exact hc (List.cons.inj h).1
  have hne : ∀ {l : List Char}, stop ∉ l → ∀ c ∈ l, c ≠ stop := by
    rintro l hl c hc rfl
    exact hl hc
  have hflat : ∀ l : List Char, l.flatMap (fun c => [c]) = l := List.flatMap_singleton'
  have h' : a.flatMap (fun c => [c]) ++ ([stop] ++ x) = b.flatMap (fun c => [c]) ++ ([stop] ++ y) := by
    rw [hflat, hflat]
    exact h
  obtain ⟨hab, hxy⟩ := hplain.flatMap hstop (hne ha) (hne hb) h'
  rw [List.map_id, List.map_id] at hab
  exact ⟨hab, hxy⟩

/-! ## Texts that differ

Two texts that begin differently stay different, whatever follows them. -/

/-- Neither text begins with the other. -/
def Apart (p q : List Char) : Prop := ¬ p <+: q ∧ ¬ q <+: p

instance (p q : List Char) : Decidable (Apart p q) := inferInstanceAs (Decidable (_ ∧ _))

/-- What begins with the one does not begin with the other. -/
theorem Apart.not_begins {p q s : List Char} (h : Apart p q) (hq : q <+: s) : ¬ p <+: s := by
  intro hp
  rcases List.prefix_or_prefix_of_prefix hp hq with hpq | hqp
  · exact h.1 hpq
  · exact h.2 hqp

/-- Whatever follows, they differ. -/
theorem Apart.append_ne {p q : List Char} (h : Apart p q) (x y : List Char) : p ++ x ≠ q ++ y := by
  intro heq
  exact h.not_begins (List.prefix_append q y) (heq ▸ List.prefix_append p x)

/-- A message with another beginning does not begin like that. -/
theorem Apart.isPrefixOf_append {p head : String} (h : Apart p.toList head.toList) (rest : String) :
    p.toList.isPrefixOf (head ++ rest).toList = false := by
  rw [Bool.eq_false_iff, String.toList_append]
  intro hprefix
  exact h.not_begins (List.prefix_append _ _) (List.isPrefixOf_iff_prefix.mp hprefix)

/-- What stands in front of both makes no difference. -/
theorem Apart.append_left {p q : List Char} (h : Apart p q) (start : List Char) :
    Apart (start ++ p) (start ++ q) :=
  ⟨fun hp => h.1 ((List.prefix_append_right_inj start).mp hp),
    fun hq => h.2 ((List.prefix_append_right_inj start).mp hq)⟩

/-! ## Literals

The characters of a literal are written one by one, and each of them is read back with the rest left
over. The quote that ends the literal is none of them. -/

/-- Reads one character of the body of a literal. -/
def readEscaped : List Char → Option (Char × List Char)
  | '\\' :: 'n' :: r => some ('\n', r)
  | '\\' :: 'r' :: r => some ('\r', r)
  | '\\' :: 't' :: r => some ('\t', r)
  | '\\' :: 'u' :: '2' :: '0' :: '2' :: '8' :: r => some ('\u2028', r)
  | '\\' :: 'u' :: '2' :: '0' :: '2' :: '9' :: r => some ('\u2029', r)
  | '\\' :: c :: r => some (c, r)
  | c :: r => some (c, r)
  | [] => none

/-- A character that is no backslash stands for itself. -/
theorem readEscaped_of_ne {c : Char} (h : c ≠ '\\') (x : List Char) :
    readEscaped (c :: x) = some (c, x) := by
  unfold readEscaped
  split <;> simp_all

/-- What is written for a character between quotes is read back. -/
theorem readEscaped_single (c : Char) (x : List Char) :
    readEscaped (escapeSingleChar c ++ x) = some (c, x) := by
  unfold escapeSingleChar
  split
  case h_9 => exact readEscaped_of_ne (by assumption) x
  all_goals rfl

theorem readEscaped_template (c : Char) (x : List Char) :
    readEscaped (escapeTemplateChar c ++ x) = some (c, x) := by
  unfold escapeTemplateChar
  split
  · next h =>
      simp only [Bool.or_eq_true, beq_iff_eq] at h
      rcases h with (rfl | rfl) | rfl <;> rfl
  · next h =>
      refine readEscaped_of_ne ?_ x
      rintro rfl
      exact h rfl

/-- What can be read character by character tells its characters. -/
theorem tells_of_read {write : Char → List Char}
    (h : ∀ c x, readEscaped (write c ++ x) = some (c, x)) : TellsAll write := by
  intro c d _ _ x y hcd
  have hread := h c x
  rw [hcd, h d y] at hread
  simp only [Option.some.injEq, Prod.mk.injEq] at hread
  exact ⟨hread.1.symm, hread.2.symm⟩

/-- No character is written like the quote. -/
theorem never_single : NeverBegins (fun _ => True) escapeSingleChar ['\''] := by
  intro c _ x y h
  unfold escapeSingleChar at h
  split at h <;> simp_all

theorem never_template : NeverBegins (fun _ => True) escapeTemplateChar ['\x60'] := by
  intro c _ x y h
  unfold escapeTemplateChar at h
  split at h <;> simp_all

/-- The body of a literal goes on up to the delimiter. -/
theorem tells_body {write : Char → List Char} {stop : Char} (hwrite : TellsAll write)
    (hstop : NeverBegins (fun _ => True) write [stop]) :
    TellsAll fun s : String => s.toList.flatMap write ++ [stop] := by
  intro s t _ _ x y h
  simp only [List.append_assoc] at h
  obtain ⟨hchars, hxy⟩ := hwrite.flatMap hstop (fun _ _ => trivial) (fun _ _ => trivial) h
  rw [List.map_id, List.map_id] at hchars
  exact ⟨String.toList_inj.mp hchars, hxy⟩

theorem toList_quote (s : String) :
    (quote s).toList = ['\''] ++ (s.toList.flatMap escapeSingleChar ++ ['\'']) := by
  simp only [quote, escapeSingle, String.toList_append, String.toList_ofList]
  rfl

/-- A template literal is its characters between backticks. -/
theorem toList_template (s : String) :
    (template s).toList = ['\x60'] ++ (s.toList.flatMap escapeTemplateChar ++ ['\x60']) := by
  simp only [template, escapeTemplate, String.toList_append, String.toList_ofList]
  rfl

/-- **A single-quoted literal tells its text**, which may hold any character. -/
theorem tells_quote : TellsAll fun s => (quote s).toList := by
  refine (tells_body (tells_of_read readEscaped_single) never_single).between ['\''] [] fun s => ?_
  rw [toList_quote, List.append_nil]

/-- **A template literal tells its text.** -/
theorem tells_template : TellsAll fun s => (template s).toList := by
  refine (tells_body (tells_of_read readEscaped_template) never_template).between ['\x60'] []
    fun s => ?_
  rw [toList_template, List.append_nil]

end DocCatalog.Emit
