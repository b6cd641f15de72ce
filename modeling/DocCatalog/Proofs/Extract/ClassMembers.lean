import DocCatalog.Extract.Component

/-!
# Members are classified once

A member of a component can be recognised by a decorator and by its initializer, as an input and as an
output. It counts once: an input goes before an output, and a decorator before an initializer.

* **`IsInput`**, **`IsOutput`**: what makes a member an input or an output.
* **`InputAlias`**, **`OutputAlias`**: the name that it has for users of the component.
* **`InputEntry`**, **`OutputEntry`**: what is said of it.
* **`inputOf?_eq_none_iff`**, **`inputEntry_of_inputOf?`** and the same for outputs: one member.
* **`Classifies`**, **`members_classified`**: all members of a class.
-/

namespace DocCatalog.Extract.Component

open Script (Value Call)

/-! ## What is looked up

A decorator is looked up by its name and a property by its key, and each time the first one counts.
These relations say so without a search. -/

/-- The first decorator of that name. -/
def HasDecorator (name : String) (m : Member) (d : Decorator) : Prop :=
  ∃ before after, m.decorators = before ++ d :: after ∧ d.name = name
    ∧ ∀ other ∈ before, other.name ≠ name

/-- The first argument of the first decorator of that name. -/
def HasArgument (name : String) (m : Member) (v : Value) : Prop :=
  ∃ d rest, HasDecorator name m d ∧ d.arguments = v :: rest

/-- The value is an object, and `w` is its first property under that key. -/
def HasProperty (key : String) (w v : Value) : Prop :=
  ∃ before after, v = .object (before ++ (key, w) :: after) ∧ ∀ other ∈ before, other.1 ≠ key

/-- The member is initialized with a call of that name. -/
def HasInitializer (callee : String) (m : Member) (arguments : List Value) : Prop :=
  ∃ types line, m.value = some (.call callee types arguments line)

/-! ## Inputs and outputs

What makes a member an input or an output is said here of the member itself, so that it can be held
against the order in which the program tries the possibilities. -/

/-- Only fields and setters can be inputs by a decorator. -/
def IsDecoratedInput (m : Member) : Prop :=
  (m.kind = .field ∨ m.kind = .setter) ∧ ∃ d ∈ m.decorators, d.name = "Input"

/-- The calls that make an input with a default, and those that make one without. -/
def defaultedCallees : List String := ["input", "model"]

/-- What is called for an input that has to be given. -/
def requiredCallees : List String := ["input.required", "model.required"]

/-- An input by what it is initialized with, whatever the arguments of the call are. -/
def IsInitializedInput (m : Member) : Prop :=
  ∃ callee ∈ defaultedCallees ++ requiredCallees, ∃ arguments, HasInitializer callee m arguments

/-- An input in either way. -/
def IsInput (m : Member) : Prop := IsDecoratedInput m ∨ IsInitializedInput m

/-- Any member can be an output by a decorator. -/
def IsDecoratedOutput (m : Member) : Prop := ∃ d ∈ m.decorators, d.name = "Output"

/-- An output in either way. -/
def IsOutput (m : Member) : Prop :=
  IsDecoratedOutput m ∨ ∃ arguments, HasInitializer "output" m arguments

/-- The options of an initializer stand behind the default, if there can be one. -/
inductive HasOptions (m : Member) : Value → Prop where
  | behind {callee : String} {default options : Value} {rest : List Value}
      (hcallee : callee ∈ defaultedCallees)
      (h : HasInitializer callee m (default :: options :: rest)) : HasOptions m options
  | first {callee : String} {options : Value} {rest : List Value}
      (hcallee : callee ∈ requiredCallees)
      (h : HasInitializer callee m (options :: rest)) : HasOptions m options

/-- The alias of an input. Where there is a decorator, it is read from that one only. -/
inductive InputAlias (m : Member) (text : String) : Prop where
  | argument (hm : IsDecoratedInput m) (h : HasArgument "Input" m (.str text))
  | property (hm : IsDecoratedInput m) {options : Value} (h : HasArgument "Input" m options)
      (halias : HasProperty "alias" (.str text) options)
  | initializer (hm : ¬ IsDecoratedInput m) {options : Value} (h : HasOptions m options)
      (halias : HasProperty "alias" (.str text) options)

/-- The text is another name of an output: the argument of the decorator or, without a decorator,
the alias among the options of the initializer. -/
inductive OutputAlias (m : Member) (text : String) : Prop where
  | argument (h : HasArgument "Output" m (.str text))
  | initializer (hm : ¬ IsDecoratedOutput m) {options : Value} {rest : List Value}
      (h : HasInitializer "output" m (options :: rest))
      (halias : HasProperty "alias" (.str text) options)

/-- An input has to be given when its decorator says so or, without a decorator, when its
initializer is one of those that have no default. -/
inductive IsRequired (m : Member) : Prop where
  | property (hm : IsDecoratedInput m) {options : Value} (h : HasArgument "Input" m options)
      (hrequired : HasProperty "required" (.bool true) options)
  | initializer (hm : ¬ IsDecoratedInput m) {callee : String} {arguments : List Value}
      (hcallee : callee ∈ requiredCallees)
      (h : HasInitializer callee m arguments)

/-- The name is an alias, or the own name where there is no alias. -/
def NamedBy (IsAlias : String → Prop) (own name : String) : Prop :=
  IsAlias name ∨ (∀ text, ¬ IsAlias text) ∧ name = own

/-- What is said of a member that is an input. One that has to be given has no default. -/
structure InputEntry (m : Member) (e : ComponentInput) : Prop where
  name : NamedBy (InputAlias m) m.name e.name
  required : e.isRequired = true ↔ IsRequired m
  default : e.isRequired = true → e.default? = none

/-- What is said of a member that is an output. -/
structure OutputEntry (m : Member) (e : ComponentOutput) : Prop where
  name : NamedBy (OutputAlias m) m.name e.name

/-- Every member goes, in order, to the inputs or to the outputs or to neither. -/
inductive Classifies : List Member → List ComponentInput → List ComponentOutput → Prop where
  | nil : Classifies [] [] []
  | input {m : Member} {ms : List Member} {e : ComponentInput} {inputs : List ComponentInput}
      {outputs : List ComponentOutput} (hname : m.name.toList.head? ≠ some '#') (hm : IsInput m)
      (he : InputEntry m e) (h : Classifies ms inputs outputs) :
      Classifies (m :: ms) (e :: inputs) outputs
  | output {m : Member} {ms : List Member} {e : ComponentOutput} {inputs : List ComponentInput}
      {outputs : List ComponentOutput} (hname : m.name.toList.head? ≠ some '#') (hnot : ¬ IsInput m)
      (hm : IsOutput m) (he : OutputEntry m e) (h : Classifies ms inputs outputs) :
      Classifies (m :: ms) inputs (e :: outputs)
  | neither {m : Member} {ms : List Member} {inputs : List ComponentInput}
      {outputs : List ComponentOutput}
      (hm : m.name.toList.head? = some '#' ∨ ¬ IsInput m ∧ ¬ IsOutput m)
      (h : Classifies ms inputs outputs) : Classifies (m :: ms) inputs outputs

variable {m : Member}

/-! ## Lookups

Each function that looks something up finds what the relation of this name says. -/

/-- The first decorator of a name is found. -/
theorem find?_eq_some_iff {name : String} {d : Decorator} :
    Decorator.find? m.decorators name = some d ↔ HasDecorator name m d := by
  rw [Decorator.find?, List.find?_eq_some_iff_append]
  constructor
  · rintro ⟨hname, before, after, hsplit, hbefore⟩
    exact ⟨before, after, hsplit, by simpa using hname, by simpa using hbefore⟩
  · rintro ⟨before, after, hsplit, hname, hbefore⟩
    exact ⟨by simpa using hname, before, after, hsplit, by simpa using hbefore⟩

/-- Nothing is found only where no decorator has the name. -/
theorem find?_eq_none_iff {name : String} :
    Decorator.find? m.decorators name = none ↔ ¬ ∃ d ∈ m.decorators, d.name = name := by
  simp [Decorator.find?]

/-- The first property with a key is found, and only objects have properties. -/
theorem property?_eq_some_iff {key : String} {v w : Value} :
    v.property? key = some w ↔ HasProperty key w v := by
  constructor
  · intro h
    unfold Value.property? at h
    split at h
    · next properties =>
        obtain ⟨⟨key', w'⟩, hfind, rfl⟩ := Option.map_eq_some_iff.mp h
        obtain ⟨hkey, before, after, rfl, hbefore⟩ := List.find?_eq_some_iff_append.mp hfind
        obtain rfl : key' = key := by simpa using hkey
        exact ⟨before, after, rfl, by simpa using hbefore⟩
    · cases h
  · rintro ⟨before, after, rfl, hbefore⟩
    refine Option.map_eq_some_iff.mpr ⟨(key, w), List.find?_eq_some_iff_append.mpr ?_, rfl⟩
    exact ⟨by simp, before, after, rfl, by simpa using hbefore⟩

/-- Only strings are read as texts. -/
theorem asString?_eq_some_iff {v : Value} {text : String} :
    v.asString? = some text ↔ v = .str text := by
  cases v <;> simp [Value.asString?]

/-- A property that is no text counts as none. -/
theorem stringProperty?_eq_some_iff {key text : String} {v : Value} :
    stringProperty? v key = some text ↔ HasProperty key (.str text) v := by
  rw [stringProperty?, Option.bind_eq_some_iff]
  simp only [asString?_eq_some_iff, property?_eq_some_iff, exists_eq_right]

/-- The parts of the call are those of the value. -/
theorem initializerCall?_eq_some_iff {call : Call} :
    initializerCall? m = some call
      ↔ m.value = some (.call call.callee call.typeArguments call.arguments call.line) := by
  rw [initializerCall?, Option.bind_eq_some_iff]
  constructor
  · rintro ⟨v, hv, hcall⟩
    cases v with
    | call callee types arguments line =>
        cases hcall
        exact hv
    | _ => cases hcall
  · exact fun h => ⟨_, h, rfl⟩

/-- A member that is initialized with a call has the callee and the arguments of this call, and no
others. -/
theorem hasInitializer_iff {call : Call} {callee : String} {arguments : List Value}
    (hcall : initializerCall? m = some call) :
    HasInitializer callee m arguments ↔ call.callee = callee ∧ call.arguments = arguments := by
  constructor
  · rintro ⟨types, line, h⟩
    have hother : initializerCall? m = some ⟨callee, types, arguments, line⟩ :=
      initializerCall?_eq_some_iff.mpr h
    cases hcall.symm.trans hother
    exact ⟨rfl, rfl⟩
  · rintro ⟨rfl, rfl⟩
    exact ⟨_, _, initializerCall?_eq_some_iff.mp hcall⟩

/-- A member with such an initializer is initialized with a call. -/
theorem HasInitializer.exists_call {callee : String} {arguments : List Value}
    (h : HasInitializer callee m arguments) : ∃ call, initializerCall? m = some call := by
  obtain ⟨types, line, h⟩ := h
  exact ⟨⟨callee, types, arguments, line⟩, initializerCall?_eq_some_iff.mpr h⟩

/-- Only the first decorator of a name is asked for its argument. -/
theorem hasArgument_iff {name : String} {d : Decorator} {v : Value}
    (h : Decorator.find? m.decorators name = some d) :
    HasArgument name m v ↔ d.arguments.head? = some v := by
  rw [List.head?_eq_some_iff]
  constructor
  · rintro ⟨d', rest, hd', harguments⟩
    rw [find?_eq_some_iff.mpr hd'] at h
    exact ⟨rest, Option.some.inj h ▸ harguments⟩
  · rintro ⟨rest, harguments⟩
    exact ⟨d, rest, find?_eq_some_iff.mp h, harguments⟩

theorem isDecorated_of_find? {name : String} {d : Decorator}
    (h : Decorator.find? m.decorators name = some d) : ∃ d ∈ m.decorators, d.name = name :=
  ⟨d, List.mem_of_find?_eq_some h, by simpa using List.find?_some h⟩

/-- An alias that is found names the member, which otherwise keeps its own name. -/
theorem namedBy_getD {IsAlias : String → Prop} {alias? : Option String}
    (h : ∀ text, alias? = some text ↔ IsAlias text) (own : String) :
    NamedBy IsAlias own (alias?.getD own) := by
  cases alias? with
  | none => exact Or.inr ⟨fun text htext => (nomatch (h text).mpr htext), rfl⟩
  | some text => exact Or.inl ((h text).mp rfl)

/-! ## Inputs

First what the program reads off a decorator and off an initializer, then that the two together say
of a member what the relation says. -/

/-- What an input by a decorator is made of. That the member is a field or a setter is checked
before. -/
theorem decoratedInput?_eq_some {e : ComponentInput} (h : decoratedInput? m = some e) :
    (m.kind = .field ∨ m.kind = .setter) ∧ ∃ d, Decorator.find? m.decorators "Input" = some d
      ∧ e.name = (d.arguments.head?.bind fun o => o.asString? <|> stringProperty? o "alias").getD m.name
      ∧ e.isRequired = (d.arguments.head?.bind (·.property? "required")).any Value.isTrue
      ∧ (e.isRequired = true → e.default? = none) := by
  unfold decoratedInput? at h
  split at h
  · cases h
  · next hkind =>
      obtain ⟨d, hd, he⟩ := Option.bind_eq_some_iff.mp h
      cases he
      refine ⟨?_, d, hd, rfl, rfl, fun hrequired => if_pos hrequired⟩
      cases hm : m.kind <;> simp_all

/-- A member without such a decorator is no input of this kind, nor is one of another kind of
member. -/
theorem decoratedInput?_eq_none_iff : decoratedInput? m = none ↔ ¬ IsDecoratedInput m := by
  constructor
  · rintro h ⟨hkind, hdecorated⟩
    cases hfind : Decorator.find? m.decorators "Input" with
    | none => exact find?_eq_none_iff.mp hfind hdecorated
    | some d =>
        unfold decoratedInput? at h
        rw [if_neg (by rcases hkind with hkind | hkind <;> simp [hkind]), hfind] at h
        cases h
  · intro hnot
    cases h : decoratedInput? m with
    | none => rfl
    | some e =>
        obtain ⟨hkind, d, hd, -⟩ := decoratedInput?_eq_some h
        exact absurd ⟨hkind, isDecorated_of_find? hd⟩ hnot

/-- What an input by an initializer is made of. The options stand first where there is no default,
otherwise they stand behind it. -/
theorem initializedInput?_eq_some {e : ComponentInput} (h : initializedInput? m = some e) :
    ∃ call, initializerCall? m = some call ∧ signalInput? call.callee = some e.isRequired
      ∧ e.name = ((if e.isRequired then call.arguments.head? else call.arguments[1]?).bind
          (stringProperty? · "alias")).getD m.name
      ∧ (e.isRequired = true → e.default? = none) := by
  unfold initializedInput? at h
  obtain ⟨call, hcall, h⟩ := Option.bind_eq_some_iff.mp h
  obtain ⟨isRequired, hsignal, he⟩ := Option.bind_eq_some_iff.mp h
  cases he
  refine ⟨call, hcall, hsignal, rfl, ?_⟩
  rintro rfl
  rfl

/-- The two kinds of calls are told by what is called. -/
theorem signalInput?_eq_some_iff {callee : String} {isRequired : Bool} :
    signalInput? callee = some isRequired
      ↔ callee ∈ if isRequired then requiredCallees else defaultedCallees := by
  unfold signalInput? requiredCallees defaultedCallees
  split <;> cases isRequired <;> simp_all

theorem signalInput?_isSome_iff {callee : String} :
    (∃ isRequired, signalInput? callee = some isRequired)
      ↔ callee ∈ defaultedCallees ++ requiredCallees := by
  simp only [signalInput?_eq_some_iff, Bool.exists_bool, Bool.false_eq_true, if_false, if_true,
    List.mem_append]

/-- A member is no input of this kind unless it is initialized with one of these calls. -/
theorem initializedInput?_eq_none_iff : initializedInput? m = none ↔ ¬ IsInitializedInput m := by
  constructor
  · -- an initializer with a callee of a signal is read as an input
    rintro h ⟨callee, hcallee, arguments, hinit⟩
    obtain ⟨call, hcall⟩ := hinit.exists_call
    obtain ⟨rfl, -⟩ := (hasInitializer_iff hcall).mp hinit
    obtain ⟨isRequired, hsignal⟩ := signalInput?_isSome_iff.mpr hcallee
    unfold initializedInput? at h
    rw [hcall] at h
    change (signalInput? call.callee).bind _ = none at h
    rw [hsignal] at h
    cases h
  · intro hnot
    cases h : initializedInput? m with
    | none => rfl
    | some e =>
        obtain ⟨call, hcall, hsignal, -⟩ := initializedInput?_eq_some h
        exact absurd ⟨call.callee, signalInput?_isSome_iff.mp ⟨_, hsignal⟩, call.arguments,
          (hasInitializer_iff hcall).mpr ⟨rfl, rfl⟩⟩ hnot

/-- **A member is no input** exactly when it is one in neither way. -/
theorem inputOf?_eq_none_iff : inputOf? m = none ↔ ¬ IsInput m := by
  rw [inputOf?, IsInput, not_or, ← decoratedInput?_eq_none_iff, ← initializedInput?_eq_none_iff]
  simp

/-- A string is an alias itself, and an object may have one. -/
theorem argumentAlias_iff {v : Value} {text : String} :
    (v.asString? <|> stringProperty? v "alias") = some text
      ↔ v = .str text ∨ HasProperty "alias" (.str text) v := by
  rw [← stringProperty?_eq_some_iff, ← asString?_eq_some_iff]
  cases v with
  | str s => simp [Value.asString?, stringProperty?, Value.property?]
  | _ => simp [Value.asString?]

/-- What is read off a decorator is what is to be said of the member. -/
theorem inputEntry_of_decoratedInput? {e : ComponentInput} (h : decoratedInput? m = some e) :
    InputEntry m e := by
  obtain ⟨hkind, d, hd, hname, hrequired, hdefault⟩ := decoratedInput?_eq_some h
  have hm : IsDecoratedInput m := ⟨hkind, isDecorated_of_find? hd⟩
  refine ⟨?_, ?_, hdefault⟩
  · rw [hname]
    refine namedBy_getD (fun text => ?_) m.name
    simp only [Option.bind_eq_some_iff, argumentAlias_iff, ← hasArgument_iff hd]
    constructor
    · -- the argument is an alias itself, or has one among its properties
      rintro ⟨v, hv, rfl | halias⟩
      · exact .argument hm hv
      · exact .property hm hv halias
    · rintro (⟨-, hv⟩ | ⟨-, hv, halias⟩ | ⟨hnot, -, -⟩)
      · exact ⟨_, hv, Or.inl rfl⟩
      · exact ⟨_, hv, Or.inr halias⟩
      · exact absurd hm hnot
  · rw [hrequired, Option.any_eq_true]
    simp only [Option.bind_eq_some_iff, property?_eq_some_iff, ← hasArgument_iff hd]
    constructor
    · rintro ⟨w, ⟨v, hv, hw⟩, htrue⟩
      cases w with
      | bool b =>
          cases b with
          | true => exact .property hm hv hw
          | false => cases htrue
      | _ => cases htrue
    · rintro (⟨-, hv, hw⟩ | ⟨hnot, -, -⟩)
      · exact ⟨_, ⟨_, hv, hw⟩, rfl⟩
      · exact absurd hm hnot

section Signal

variable {call : Call} {isRequired : Bool} (hcall : initializerCall? m = some call)
  (hsignal : signalInput? call.callee = some isRequired)

include hcall hsignal

/-- A member has one initializer, so that it is not of both kinds. -/
theorem isRequired_eq {callee : String} {arguments : List Value} (b : Bool)
    (hcallee : callee ∈ if b then requiredCallees else defaultedCallees)
    (h : HasInitializer callee m arguments) : isRequired = b ∧ call.arguments = arguments := by
  obtain ⟨rfl, harguments⟩ := (hasInitializer_iff hcall).mp h
  exact ⟨Option.some.inj (hsignal.symm.trans (signalInput?_eq_some_iff.mpr hcallee)), harguments⟩

/-- Where the options of a call stand depends on its kind only. -/
theorem hasOptions_iff {v : Value} :
    HasOptions m v ↔ (if isRequired then call.arguments.head? else call.arguments[1]?) = some v := by
  constructor
  · rintro (⟨hcallee, h⟩ | ⟨hcallee, h⟩)
    · obtain ⟨rfl, harguments⟩ := isRequired_eq hcall hsignal false hcallee h
      rw [harguments]
      rfl
    · obtain ⟨rfl, harguments⟩ := isRequired_eq hcall hsignal true hcallee h
      rw [harguments]
      rfl
  · intro h
    -- what is called tells whether the options come first
    have hcallee := signalInput?_eq_some_iff.mp hsignal
    cases isRequired with
    | true =>
        obtain ⟨rest, harguments⟩ := List.head?_eq_some_iff.mp h
        exact .first hcallee ((hasInitializer_iff hcall).mpr ⟨rfl, harguments⟩)
    | false =>
        obtain ⟨default, rest, harguments⟩ : ∃ default rest, call.arguments = default :: v :: rest := by
          -- behind a default, so there are two arguments at least
          rcases harguments : call.arguments with _ | ⟨default, _ | ⟨options, rest⟩⟩
          · simp [harguments] at h
          · simp [harguments] at h
          · exact ⟨default, rest, by simpa [harguments] using h⟩
        exact .behind hcallee ((hasInitializer_iff hcall).mpr ⟨rfl, harguments⟩)

/-- Without a decorator what is called decides. -/
theorem isRequired_iff (hm : ¬ IsDecoratedInput m) : isRequired = true ↔ IsRequired m := by
  constructor
  · rintro rfl
    have hinit : HasInitializer call.callee m call.arguments :=
      (hasInitializer_iff hcall).mpr ⟨rfl, rfl⟩
    exact .initializer hm (signalInput?_eq_some_iff.mp hsignal) hinit
  · rintro (⟨hdecorated, -⟩ | ⟨-, hcallee, h⟩)
    · exact absurd hdecorated hm
    · exact (isRequired_eq hcall hsignal true hcallee h).1

end Signal

/-- What is read off an initializer is what is to be said of a member that has no decorator. -/
theorem inputEntry_of_initializedInput? {e : ComponentInput} (hm : ¬ IsDecoratedInput m)
    (h : initializedInput? m = some e) : InputEntry m e := by
  obtain ⟨call, hcall, hsignal, hname, hdefault⟩ := initializedInput?_eq_some h
  refine ⟨?_, ?_, hdefault⟩
  · rw [hname]
    refine namedBy_getD (fun text => ?_) m.name
    simp only [Option.bind_eq_some_iff, stringProperty?_eq_some_iff, ← hasOptions_iff hcall hsignal]
    constructor
    · rintro ⟨v, hv, halias⟩
      exact .initializer hm hv halias
    · rintro (⟨hdecorated, -⟩ | ⟨hdecorated, -, -⟩ | ⟨-, hv, halias⟩)
      · exact absurd hdecorated hm
      · exact absurd hdecorated hm
      · exact ⟨_, hv, halias⟩
  · exact isRequired_iff hcall hsignal hm

/-- **What is said of an input** is right, whichever way it was recognised. -/
theorem inputEntry_of_inputOf? {e : ComponentInput} (h : inputOf? m = some e) : InputEntry m e := by
  rw [inputOf?, Option.orElse_eq_orElse, Option.orElse_eq_or, Option.or_eq_some_iff] at h
  rcases h with hdecorated | ⟨hnone, hinitialized⟩
  · exact inputEntry_of_decoratedInput? hdecorated
  · exact inputEntry_of_initializedInput? (decoratedInput?_eq_none_iff.mp hnone) hinitialized

/-! ## Outputs

The same for outputs, where nothing can be required. -/

/-- A member is no output of this kind unless it has the decorator. -/
theorem decoratedOutput?_eq_none_iff : decoratedOutput? m = none ↔ ¬ IsDecoratedOutput m := by
  rw [IsDecoratedOutput, ← find?_eq_none_iff, decoratedOutput?]
  cases Decorator.find? m.decorators "Output" <;> simp

theorem decoratedOutput?_eq_some {e : ComponentOutput} (h : decoratedOutput? m = some e) :
    ∃ d, Decorator.find? m.decorators "Output" = some d
      ∧ e.name = (d.arguments.head?.bind Value.asString?).getD m.name := by
  obtain ⟨d, hd, he⟩ := Option.bind_eq_some_iff.mp h
  cases he
  exact ⟨d, hd, rfl⟩

/-- What an output by an initializer is made of. -/
theorem initializedOutput?_eq_some {e : ComponentOutput} (h : initializedOutput? m = some e) :
    ∃ call, initializerCall? m = some call ∧ call.callee = "output"
      ∧ e.name = (call.arguments.head?.bind (stringProperty? · "alias")).getD m.name := by
  obtain ⟨call, hcall, h⟩ := Option.bind_eq_some_iff.mp h
  split at h
  · cases h
  · next hcallee =>
      cases h
      exact ⟨call, hcall, by simpa using hcallee, rfl⟩

/-- A member is no output of this kind unless it is initialized with this call. -/
theorem initializedOutput?_eq_none_iff :
    initializedOutput? m = none ↔ ¬ ∃ arguments, HasInitializer "output" m arguments := by
  constructor
  · rintro h ⟨arguments, hinit⟩
    obtain ⟨call, hcall⟩ := hinit.exists_call
    obtain ⟨hcallee, -⟩ := (hasInitializer_iff hcall).mp hinit
    unfold initializedOutput? at h
    rw [hcall] at h
    change (if call.callee != "output" then none else some _) = none at h
    rw [if_neg (by simp [hcallee])] at h
    cases h
  · intro hnot
    cases h : initializedOutput? m with
    | none => rfl
    | some e =>
        obtain ⟨call, hcall, hcallee, -⟩ := initializedOutput?_eq_some h
        exact absurd ⟨call.arguments, (hasInitializer_iff hcall).mpr ⟨hcallee, rfl⟩⟩ hnot

/-- **A member is no output** exactly when it is one in neither way. -/
theorem outputOf?_eq_none_iff : outputOf? m = none ↔ ¬ IsOutput m := by
  rw [outputOf?, IsOutput, not_or, ← decoratedOutput?_eq_none_iff, ← initializedOutput?_eq_none_iff]
  simp

/-- What is read off a decorator is what is to be said of the member. -/
theorem outputEntry_of_decoratedOutput? {e : ComponentOutput} (h : decoratedOutput? m = some e) :
    OutputEntry m e := by
  obtain ⟨d, hd, hname⟩ := decoratedOutput?_eq_some h
  refine ⟨hname ▸ namedBy_getD (fun text => ?_) m.name⟩
  simp only [Option.bind_eq_some_iff, asString?_eq_some_iff, exists_eq_right, ← hasArgument_iff hd]
  constructor
  · exact .argument
  · rintro (hv | ⟨hnot, -, -⟩)
    · exact hv
    · exact absurd (isDecorated_of_find? hd) hnot

/-- What is read off an initializer is what is to be said of a member that has no decorator. -/
theorem outputEntry_of_initializedOutput? {e : ComponentOutput} (hm : ¬ IsDecoratedOutput m)
    (h : initializedOutput? m = some e) : OutputEntry m e := by
  obtain ⟨call, hcall, hcallee, hname⟩ := initializedOutput?_eq_some h
  refine ⟨hname ▸ namedBy_getD (fun text => ?_) m.name⟩
  simp only [Option.bind_eq_some_iff, stringProperty?_eq_some_iff, List.head?_eq_some_iff]
  constructor
  · rintro ⟨v, ⟨rest, harguments⟩, halias⟩
    exact .initializer hm ((hasInitializer_iff hcall).mpr ⟨hcallee, harguments⟩) halias
  · rintro (⟨d, -, hd, -⟩ | ⟨-, hinit, halias⟩)
    · exact absurd (isDecorated_of_find? (find?_eq_some_iff.mpr hd)) hm
    · exact ⟨_, ⟨_, ((hasInitializer_iff hcall).mp hinit).2⟩, halias⟩

/-- **What is said of an output** is right, whichever way it was recognised. -/
theorem outputEntry_of_outputOf? {e : ComponentOutput} (h : outputOf? m = some e) :
    OutputEntry m e := by
  rw [outputOf?, Option.orElse_eq_orElse, Option.orElse_eq_or, Option.or_eq_some_iff] at h
  rcases h with hdecorated | ⟨hnone, hinitialized⟩
  · exact outputEntry_of_decoratedOutput? hdecorated
  · exact outputEntry_of_initializedOutput? (decoratedOutput?_eq_none_iff.mp hnone) hinitialized

/-! ## Classes

The members of a class are gone through in order, and each gives at most one entry. -/

/-- Hidden members are told by the first letter of their names. -/
theorem isHidden_iff : isHidden m = true ↔ m.name.toList.head? = some '#' := by
  rw [isHidden, beq_iff_eq]

theorem isInput_of_inputOf? {e : ComponentInput} (h : inputOf? m = some e) : IsInput m :=
  Classical.not_not.mp fun hnot => by
    rw [inputOf?_eq_none_iff.mpr hnot] at h
    cases h

theorem isOutput_of_outputOf? {e : ComponentOutput} (h : outputOf? m = some e) : IsOutput m :=
  Classical.not_not.mp fun hnot => by
    rw [outputOf?_eq_none_iff.mpr hnot] at h
    cases h

/-- Along the members: each is hidden, an input, an output or neither, and an input is not asked
whether it is an output. -/
theorem classifies_membersOf (members : List Member) :
    Classifies members (membersOf members).1 (membersOf members).2 := by
  -- an input goes before an output, so an output is met only where there is no input
  induction members with
  | nil => exact .nil
  | cons m ms ih =>
      rw [membersOf]
      generalize membersOf ms = rest at ih
      obtain ⟨inputs, outputs⟩ := rest
      dsimp only at ih ⊢
      by_cases hhidden : isHidden m = true
      · rw [if_pos hhidden]
        exact .neither (Or.inl (isHidden_iff.mp hhidden)) ih
      · rw [if_neg hhidden]
        rw [isHidden_iff] at hhidden
        cases hinput : inputOf? m with
        | some e =>
            exact .input hhidden (isInput_of_inputOf? hinput) (inputEntry_of_inputOf? hinput) ih
        | none =>
            have hnot := inputOf?_eq_none_iff.mp hinput
            cases houtput : outputOf? m with
            | some e =>
                exact .output hhidden hnot (isOutput_of_outputOf? houtput)
                  (outputEntry_of_outputOf? houtput) ih
            | none => exact .neither (Or.inr ⟨hnot, outputOf?_eq_none_iff.mp houtput⟩) ih

/-- The record of a class has the entries of its members. -/
theorem members_of_recordOf? {root : Option String} {path : String} {d : Declaration}
    {r : ComponentRecord} (h : recordOf? root path d = some r) :
    r.inputs = (membersOf d.members).1 ∧ r.outputs = (membersOf d.members).2 := by
  unfold recordOf? at h
  generalize membersOf d.members = members at h ⊢
  obtain ⟨inputs, outputs⟩ := members
  dsimp only at h
  split at h
  · cases h
  · obtain ⟨decorator, -, hr⟩ := Option.bind_eq_some_iff.mp h
    cases hr
    exact ⟨rfl, rfl⟩

/-- **Every member of a class counts once**, and so it stands in the record of the class. -/
theorem members_classified (d : Declaration) :
    Classifies d.members (membersOf d.members).1 (membersOf d.members).2
      ∧ ∀ root path r, recordOf? root path d = some r → Classifies d.members r.inputs r.outputs := by
  refine ⟨classifies_membersOf d.members, fun root path r h => ?_⟩
  obtain ⟨hinputs, houtputs⟩ := members_of_recordOf? h
  rw [hinputs, houtputs]
  exact classifies_membersOf d.members

/-- A member with nothing but what these results are about. -/
def plainMember (kind : MemberKind) (name : String) (decorators : List Decorator)
    (value : Option Value) : Member where
  kind := kind
  name := name
  line := 1
  comment := none
  trailingComment := none
  decorators := decorators
  typeText := none
  value := value
  isOptional := false

/-- Members that several recognisers know, or that look as if one did. -/
def crowdedClass : Declaration where
  kind := .classLike
  name := "AxCard"
  line := 1
  isExported := true
  comment := none
  decorators := [⟨"Component", []⟩]
  members :=
    [plainMember .field "size" [⟨"Output", [.str "x"]⟩,
        ⟨"Input", [.object [("required", .bool true), ("alias", .str "dim"), ("alias", .str "y")]]⟩]
        (some (.call "input" none [.number "1"] 1)),
      plainMember .getter "width" [⟨"Input", [.str "z"]⟩] none,
      plainMember .field "changed" [⟨"Output", [.object [("alias", .str "x")]]⟩]
        (some (.call "output" none [.object [("alias", .str "x")]] 1)),
      plainMember .field "#own" [⟨"Input", []⟩] none,
      plainMember .field "value" [⟨"Output", [.str "x"]⟩]
        (some (.call "model" none [.number "0", .object [("alias", .str "amount")]] 1)),
      plainMember .field "closed" [] (some (.call "output" none [.object [("alias", .str "done")]] 1))]
  value := none

/-- A member that is required in one way and has a default in the other, and others that are
recognised in several ways. -/
theorem members_classified_crowded :
    ∃ r, recordOf? none "card.ts" crowdedClass = some r
      ∧ r.inputs.map (fun e => (e.name, e.isRequired, e.default?))
        = [("dim", true, none), ("amount", false, some "0")]
      ∧ r.outputs.map (·.name) = ["changed", "done"]
      ∧ Classifies crowdedClass.members r.inputs r.outputs := by
  refine ⟨_, rfl, ?_, ?_, (members_classified crowdedClass).2 none "card.ts" _ rfl⟩
  · decide
  · decide

end DocCatalog.Extract.Component
