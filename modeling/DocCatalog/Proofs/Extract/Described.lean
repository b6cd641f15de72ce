import DocCatalog.Extract.Command
import Mathlib.Data.List.Forall2

/-!
# What describes a command

Behind the call that registers a command any calls may follow, in any order and as often as they like.
The first call of one name counts for the alias, the last one of another for the description, every call
for an option gives one or a warning, and the comment goes before the calls.

* **`FirstSaid`**, **`LastSaid`**: the call of a name that counts, with the calls around it.
* **`Topic`**, **`concerns`**: the three things that a warning about a command can be about.
* **`OptionAnswers`**: what a call for an option is answered by.
* **`Describes`**, **`ofSegment_describes`**: what a record and its warnings come from.
-/

namespace DocCatalog.Extract.Command

open Script (Value Call)
open Doc (DocComment Param)

/-! ## Calls that count

Of the calls with one name the first or the last that says a text counts. The relations name this
call with all that stands around it. -/

/-- The call has that name and the text as its first argument. -/
def Says (callee text : String) (call : Call) : Prop :=
  call.callee = callee ∧ ∃ arguments, call.arguments = .str text :: arguments

/-- The text is said by a call of that name, and none before says one. -/
def FirstSaid (callee : String) (calls : List Call) (text : String) : Prop :=
  ∃ before call after, calls = before ++ call :: after ∧ Says callee text call
    ∧ ∀ c ∈ before, ∀ t, ¬ Says callee t c

/-- The text is said by a call of that name, and none behind says one. -/
def LastSaid (callee : String) (calls : List Call) (text : String) : Prop :=
  ∃ before call after, calls = before ++ call :: after ∧ Says callee text call
    ∧ ∀ c ∈ after, ∀ t, ¬ Says callee t c

/-- What the call says, if it has that name. -/
def said? (callee : String) (call : Call) : Option String :=
  if call.callee == callee then firstString? call else none

variable {callee text : String} {call : Call} {calls : List Call}

/-- What a call says is its first argument, if this is a text. -/
theorem said?_eq_some : said? callee call = some text ↔ Says callee text call := by
  unfold said? Says firstString?
  by_cases hcallee : call.callee = callee
  · rw [if_pos (beq_iff_eq.mpr hcallee)]
    cases call.arguments with
    | nil => simp
    | cons v arguments => cases v <;> simp [Value.asString?, hcallee]
  · rw [if_neg (by simpa using hcallee)]
    simp [hcallee]

/-- A call with another name says nothing here, nor does one without such a text. -/
theorem said?_eq_none : said? callee call = none ↔ ∀ text, ¬ Says callee text call := by
  simp only [Option.eq_none_iff_forall_ne_some, Ne, said?_eq_some]

/-- The first one is found by looking for it. -/
theorem firstSaid_iff : FirstSaid callee calls text ↔ calls.findSome? (said? callee) = some text := by
  simp only [List.findSome?_eq_some_iff, said?_eq_some, said?_eq_none, FirstSaid]

/-- The last one is the end of all that is said. -/
theorem lastSaid_iff :
    LastSaid callee calls text ↔ (calls.filterMap (said? callee)).getLast? = some text := by
  have hturned : LastSaid callee calls text ↔ FirstSaid callee calls.reverse text := by
    constructor
    · rintro ⟨before, c, after, rfl, hsaid, hafter⟩
      exact ⟨after.reverse, c, before.reverse, by simp, hsaid, by simpa using hafter⟩
    · rintro ⟨before, c, after, hcalls, hsaid, hbefore⟩
      refine ⟨after.reverse, c, before.reverse, ?_, hsaid, by simpa using hbefore⟩
      rw [← List.reverse_reverse calls, hcalls]
      simp
  rw [hturned, firstSaid_iff, List.getLast?_filterMap]

/-- Looking at the calls of a name only makes no difference. -/
theorem filterMap_callsNamed (s : Segment) (callee : String) :
    (s.callsNamed [callee]).filterMap firstString? = s.rest.filterMap (said? callee) := by
  rw [Segment.callsNamed, List.filterMap_filter]
  refine congrArg (List.filterMap · s.rest) (funext fun c => ?_)
  simp [said?]

/-! ## Warnings

Warnings are texts. What one is about is told by its beginning, and no text begins in two of these
ways, since the openings differ behind the name. -/

/-- What a warning about a command is about. -/
inductive Topic where
  | flags
  | documentation
  | param
  deriving DecidableEq

/-- What follows the name of the command in warnings about the topic. -/
def Topic.opening : Topic → String
  | .flags => "`: option without a `--long` flag"
  | .documentation => "` has no documentation comment"
  | .param => "`: @param `"

/-- The warning begins as those about the topic do. -/
def concerns (name : String) (topic : Topic) (d : Diagnostic) : Bool :=
  ("command `" ++ name ++ topic.opening).toList.isPrefixOf d.message.toList

/-- What is found about a command of that name, by its topic. -/
inductive FoundOn (name : String) : Topic → Finding → Prop
  | flags : FoundOn name .flags (.optionWithoutLongFlag name)
  | documentation : FoundOn name .documentation (.undocumented .command name)
  | param (value : String) : FoundOn name .param (.oddParam name value)

variable {name : String} {topic : Topic} {f : Finding}

/-- The message names the command, and goes on as messages about the topic do. -/
theorem FoundOn.message (h : FoundOn name topic f) :
    ∃ rest, f.message = "command `" ++ name ++ (topic.opening ++ rest) := by
  cases h with
  | flags => exact ⟨"", by rw [String.append_empty]; rfl⟩
  | documentation => exact ⟨"", by rw [String.append_empty]; rfl⟩
  | param value =>
      refine ⟨value ++ "` is not of the form `name - description`", ?_⟩
      rw [← String.append_assoc, ← String.append_assoc]
      rfl

/-- The topics are told apart by what follows the name. -/
theorem Topic.eq_of_prefix {t u : Topic} {rest : List Char}
    (h : t.opening.toList <+: u.opening.toList ++ rest) : t = u := by
  obtain ⟨behind, h⟩ := h
  cases t <;> cases u <;> first | rfl | simp [Topic.opening] at h

/-- **A warning is about its own topic** and about no other one. -/
theorem concerns_place (h : FoundOn name topic f) (t : Topic) (path : String) (line : Option Nat) :
    concerns name t (f.place path line) = decide (t = topic) := by
  obtain ⟨rest, hmessage⟩ := h.message
  have hplace : (f.place path line).message = f.message := rfl
  rw [Bool.eq_iff_iff, decide_eq_true_iff, concerns, List.isPrefixOf_iff_prefix, hplace, hmessage]
  simp only [String.toList_append, List.prefix_append_right_inj]
  constructor
  · exact Topic.eq_of_prefix
  · rintro rfl
    exact List.prefix_append _ _

/-! ## Options

Every call for an option is answered once, by the option or by a warning. -/

/-- The call asks for an option. -/
def AsksForOption (call : Call) : Prop := call.callee = "option" ∨ call.callee = "requiredOption"

instance : DecidablePred AsksForOption := fun _ => inferInstanceAs (Decidable (_ ∨ _))

/-- A call for an option is answered by the option, or by the warning that it has no long flag. -/
inductive OptionAnswers (path name : String) (call : Call) : CommandOption ⊕ Diagnostic → Prop
  | option {flags : String} {o : CommandOption} (hsaid : Says call.callee flags call)
      (ho : Flag.optionOf? flags call = some o) : OptionAnswers path name call (.inl o)
  | flagless (h : ∀ flags, Says call.callee flags call → Flag.longFlag? flags.toList = none) :
      OptionAnswers path name call
        (.inr ((Finding.optionWithoutLongFlag name).place path (some call.line)))

/-- What a call for an option comes to. -/
def optionAnswer (path name : String) (call : Call) : CommandOption ⊕ Diagnostic :=
  match optionOf? call with
  | some o => .inl o
  | none => .inr ((Finding.optionWithoutLongFlag name).place path (some call.line))

/-- There is no option exactly where there is no long flag. -/
theorem optionOf?_eq_none {flags : String} :
    Flag.optionOf? flags call = none ↔ Flag.longFlag? flags.toList = none := by
  cases h : Flag.longFlag? flags.toList <;> simp [Flag.optionOf?, h]

theorem says_callee : Says call.callee text call ↔ firstString? call = some text := by
  rw [← said?_eq_some, said?, if_pos (beq_self_eq_true call.callee)]

/-- The answer is an option if the call says flags with a long one among them, otherwise a warning. -/
theorem optionAnswers_optionAnswer (path name : String) (call : Call) :
    OptionAnswers path name call (optionAnswer path name call) := by
  unfold optionAnswer
  cases h : optionOf? call with
  | some o =>
      obtain ⟨flags, hflags, ho⟩ := Option.bind_eq_some_iff.mp h
      exact .option (says_callee.mpr hflags) ho
  | none =>
      refine .flagless fun flags hsaid => ?_
      rw [optionOf?, says_callee.mp hsaid, Option.bind_some] at h
      exact optionOf?_eq_none.mp h

/-- The two kinds of calls are gone through together, in their order. -/
theorem optionCalls_eq (s : Segment) : optionCalls s = s.rest.filter (AsksForOption ·) := by
  refine List.filter_congr fun c _ => ?_
  rw [Bool.eq_iff_iff, decide_eq_true_iff]
  simp [AsksForOption]

/-- Those answers that are options are the options of the record. -/
theorem filterMap_optionAnswer_left (path name : String) (calls : List Call) :
    (calls.map (optionAnswer path name)).filterMap Sum.getLeft? = calls.filterMap optionOf? := by
  rw [List.filterMap_map]
  refine congrArg (List.filterMap · calls) (funext fun c => ?_)
  rw [Function.comp_apply, optionAnswer]
  cases optionOf? c <;> rfl

/-- The others are warnings, each with the line of its call. -/
theorem filterMap_optionAnswer_right (path name : String) (calls : List Call) :
    (calls.map (optionAnswer path name)).filterMap Sum.getRight?
      = (calls.filter fun c => (optionOf? c).isNone).map fun c =>
        (Finding.optionWithoutLongFlag name).place path (some c.line) := by
  rw [List.filterMap_map, ← List.filterMap_eq_map', List.filterMap_filter]
  refine congrArg (List.filterMap · calls) (funext fun c => ?_)
  rw [Function.comp_apply, optionAnswer]
  cases optionOf? c <;> rfl

/-- **No call is lost**: each gives an option or a warning. -/
theorem length_optionAnswers (path name : String) (calls : List Call) :
    (calls.filterMap optionOf?).length
      + ((calls.map (optionAnswer path name)).filterMap Sum.getRight?).length = calls.length := by
  rw [filterMap_optionAnswer_right, List.length_map, List.length_filterMap_eq_countP,
    ← List.countP_eq_length_filter, List.length_eq_countP_add_countP fun c => (optionOf? c).isSome]
  refine congrArg (_ + ·) (List.countP_congr fun c _ => ?_)
  simp

/-! ## Warnings of a command

The warnings about options stand before those about the comment, which are about tags if there is a
comment and about its absence otherwise. -/

section Part

variable (path : String) (s : Segment) (doc : DocComment)

/-- The warnings that the comment of a command, or the lack of one, gives rise to. -/
def commentWarnings (name : String) : List Diagnostic :=
  if doc.isDoc then
    doc.unmatchedParams.map fun v => (Finding.oddParam name v).place path (some s.head.line)
  else if (calledDescription s).isEmpty then
    [(Finding.undocumented .command name).place path (some s.head.line)]
  else []

/-- The two parts of the warnings. -/
theorem warningsOf_eq : warningsOf path s doc
    = ((optionCalls s).map (optionAnswer path (String.ofList s.name))).filterMap Sum.getRight?
      ++ commentWarnings path s doc (String.ofList s.name) := by
  rw [filterMap_optionAnswer_right]
  rfl

/-- Warnings of the first part are about flags and nothing else. -/
theorem concerns_optionAnswers {name : String} {d : Diagnostic}
    (h : d ∈ ((optionCalls s).map (optionAnswer path name)).filterMap Sum.getRight?) (topic : Topic) :
    concerns name topic d = decide (topic = .flags) := by
  rw [filterMap_optionAnswer_right] at h
  obtain ⟨c, -, rfl⟩ := List.mem_map.mp h
  exact concerns_place .flags topic path _

/-- What those of the second part are about depends on whether there is a comment. -/
theorem concerns_commentWarnings {name : String} {d : Diagnostic}
    (h : d ∈ commentWarnings path s doc name) (topic : Topic) :
    concerns name topic d = decide (topic = if doc.isDoc then .param else .documentation) := by
  unfold commentWarnings at h
  cases hdoc : doc.isDoc with
  | true =>
      rw [hdoc, if_pos rfl] at h
      obtain ⟨v, -, rfl⟩ := List.mem_map.mp h
      exact concerns_place (.param v) topic path _
  | false =>
      rw [hdoc, if_neg Bool.false_ne_true] at h
      split at h
      · rw [List.mem_singleton.mp h]
        exact concerns_place .documentation topic path _
      · cases h

/-- A condition that does not look at the elements keeps all or none. -/
theorem filter_const {α : Type} (p : Prop) [Decidable p] (l : List α) :
    l.filter (fun _ => decide p) = if p then l else [] := by
  by_cases hp : p <;> simp [hp]

/-- The warnings about one topic, of those about the options and those about the comment. -/
theorem filter_concerns (topic : Topic) :
    let name := String.ofList s.name
    (warningsOf path s doc).filter (concerns name topic)
      = (if topic = .flags then
          ((optionCalls s).map (optionAnswer path name)).filterMap Sum.getRight? else [])
        ++ if topic = (if doc.isDoc then .param else .documentation) then
            commentWarnings path s doc name else [] := by
  intro name
  rw [warningsOf_eq, List.filter_append,
    List.filter_congr fun d hd => concerns_optionAnswers path s hd topic,
    List.filter_congr fun d hd => concerns_commentWarnings path s doc hd topic, filter_const,
    filter_const]

/-- **Warnings about flags** are those of the calls for options. -/
theorem filter_flags : (warningsOf path s doc).filter (concerns (String.ofList s.name) .flags)
    = ((optionCalls s).map (optionAnswer path (String.ofList s.name))).filterMap Sum.getRight? := by
  rw [filter_concerns, if_pos rfl, if_neg (by split <;> decide), List.append_nil]

/-- **A warning about the documentation** is given when neither a comment nor a call describes the
command. -/
theorem filter_documentation :
    (warningsOf path s doc).filter (concerns (String.ofList s.name) .documentation)
      = if doc.isDoc = false ∧ descriptionOf s doc = "" then
          [(Finding.undocumented .command (String.ofList s.name)).place path (some s.head.line)]
        else [] := by
  rw [filter_concerns, if_neg (by decide), List.nil_append]
  cases hdoc : doc.isDoc <;> simp [commentWarnings, descriptionOf, hdoc]

/-- **Warnings about params** are given for those values of the comment that are no params. -/
theorem filter_param : (warningsOf path s doc).filter (concerns (String.ofList s.name) .param)
    = if doc.isDoc then (doc.paramValues.filter fun v => Param.parse? v = none).map fun v =>
        (Finding.oddParam (String.ofList s.name) (String.ofList v)).place path (some s.head.line)
      else [] := by
  rw [filter_concerns, if_neg (by decide), List.nil_append]
  cases hdoc : doc.isDoc with
  | false => rfl
  | true =>
      have hodd : (fun v => (Param.parse? v).isNone) = fun v => decide (Param.parse? v = none) := by
        funext v
        cases Param.parse? v <;> rfl
      simp only [commentWarnings, hdoc, DocComment.unmatchedParams, if_true, List.map_map, hodd]
      rfl

theorem exists_concerns {d : Diagnostic} (h : d ∈ warningsOf path s doc) :
    ∃ topic, concerns (String.ofList s.name) topic d = true := by
  rw [warningsOf_eq] at h
  rcases List.mem_append.mp h with hoption | hcomment
  · exact ⟨_, (concerns_optionAnswers path s hoption _).trans (decide_eq_true rfl)⟩
  · exact ⟨_, (concerns_commentWarnings path s doc hcomment _).trans (decide_eq_true rfl)⟩

/-! ## Description and alias

The description of the comment goes before what the calls say. -/

/-- The alias is what is said first. -/
theorem alias_eq_some {text : String} :
    (s.callsNamed ["alias"]).findSome? firstString? = some text ↔ FirstSaid "alias" s.rest text := by
  rw [firstSaid_iff, ← List.head?_filterMap, filterMap_callsNamed, List.head?_filterMap]

/-- Without a description in the comment it is what is said last. -/
theorem descriptionOf_eq (h : doc.isDoc → doc.descriptionText = "") :
    descriptionOf s doc
      = ((s.rest.filterMap (said? "description")).getLast?.getD "").trimBlanks := by
  rw [← filterMap_callsNamed]
  unfold descriptionOf
  cases hdoc : doc.isDoc with
  | true => rw [h hdoc]; rfl
  | false => rfl

end Part

/-! ## Records and warnings

All this put together for one command. -/

/-- What a record and its warnings come from. -/
structure Describes (path : String) (s : Segment) (doc : DocComment) (r : CommandRecord)
    (warnings : List Diagnostic) : Prop where
  /-- Every call for an option is answered once, in the order of the calls. -/
  options : ∃ answers, List.Forall₂ (OptionAnswers path r.name) (s.rest.filter (AsksForOption ·)) answers
    ∧ r.options = answers.filterMap Sum.getLeft?
    ∧ warnings.filter (concerns r.name .flags) = answers.filterMap Sum.getRight?
  counted : r.options.length + warnings.countP (concerns r.name .flags)
    = s.rest.countP (AsksForOption ·)
  aliased : ∀ text, r.alias? = some text ↔ FirstSaid "alias" s.rest text
  documented : doc.isDoc → doc.descriptionText ≠ "" → r.description = doc.descriptionText
  called : (doc.isDoc → doc.descriptionText = "") →
    ∀ text, LastSaid "description" s.rest text → r.description = text.trimBlanks
  undescribed : (doc.isDoc → doc.descriptionText = "") →
    (∀ c ∈ s.rest, ∀ text, ¬ Says "description" text c) → r.description = ""
  missing : warnings.filter (concerns r.name .documentation)
    = if doc.isDoc = false ∧ r.description = "" then
        [(Finding.undocumented .command r.name).place path (some s.head.line)] else []
  /-- Every parameter of another form is warned about, in the order of the comment. -/
  params : warnings.filter (concerns r.name .param)
    = if doc.isDoc then (doc.paramValues.filter fun v => Param.parse? v = none).map fun v =>
        (Finding.oddParam r.name (String.ofList v)).place path (some s.head.line) else []
  noOther : ∀ d ∈ warnings, ∃ topic, concerns r.name topic d = true

/-- **What describes a command**: the first call for an alias, the last one for a description, the
comment before that, and one option or warning for every call that asks for an option. All other
warnings are those about the comment. -/
theorem ofSegment_describes (path : String) (s : Segment) (doc : DocComment) {r : CommandRecord}
    (h : r ∈ (ofSegment path s doc).1) : Describes path s doc r (ofSegment path s doc).2 := by
  -- a segment without a name gives no record
  have hname : s.name.isEmpty ≠ true := fun hempty => by
    rw [ofSegment, if_pos hempty] at h
    cases h
  rw [ofSegment, if_neg hname] at h ⊢
  obtain rfl := List.mem_singleton.mp h
  have hflags := filter_flags path s doc
  refine ⟨⟨(optionCalls s).map (optionAnswer path (String.ofList s.name)), ?_,
      (filterMap_optionAnswer_left path _ (optionCalls s)).symm, hflags⟩,
    ?_, fun text => alias_eq_some s, fun hdoc hne => ?_, fun hno text hlast => ?_,
    fun hno hnone => ?_, filter_documentation path s doc, filter_param path s doc,
    fun d hd => exists_concerns path s doc hd⟩
  · rw [optionCalls_eq, List.forall₂_map_right_iff, List.forall₂_same]
    exact fun c _ => optionAnswers_optionAnswer path _ c
  · rw [List.countP_eq_length_filter, List.countP_eq_length_filter, ← optionCalls_eq]
    exact (congrArg (_ + ·.length) hflags).trans (length_optionAnswers path _ _)
  · -- the description of the comment, of the last call that says one, or none
    show descriptionOf s doc = doc.descriptionText
    simp [descriptionOf, hdoc, hne]
  · show descriptionOf s doc = text.trimBlanks
    rw [descriptionOf_eq s doc hno, lastSaid_iff.mp hlast, Option.getD_some]
  · show descriptionOf s doc = ""
    have hnil : s.rest.filterMap (said? "description") = [] :=
      List.filterMap_eq_nil_iff.mpr fun c hc => said?_eq_none.mpr (hnone c hc)
    rw [descriptionOf_eq s doc hno, hnil]
    rfl

/-- A command with two aliases behind one that is no text, descriptions on both sides of an option,
and two options without a long flag. -/
def crowdedCommand : Segment :=
  ⟨⟨"command", none, [.str "build <app>"], 3⟩,
    [⟨"alias", none, [.expr "short"], 4⟩,
      ⟨"description", none, [.str "Old"], 5⟩,
      ⟨"alias", none, [.str "b"], 6⟩,
      ⟨"option", none, [.str "-f, --force", .str " Force "], 7⟩,
      ⟨"requiredOption", none, [.str "-x"], 8⟩,
      ⟨"alias", none, [.str "bld"], 9⟩,
      ⟨"description", none, [.str " New "], 10⟩,
      ⟨"action", none, [.expr "run"], 11⟩,
      ⟨"option", none, [.expr "flags"], 12⟩,
      ⟨"description", none, [.expr "text"], 13⟩]⟩

/-- Its tags name one param without, one with a description, and one not at all. -/
def oddParamComment : DocComment :=
  DocComment.ofNode (some "/**\n * @param app\n * @param app - to build\n * @param\n */")

/-- Each kind of call is repeated here, so that it shows which of them counts. -/
theorem ofSegment_describes_crowded :
    let r := recordOf "cli.ts" crowdedCommand oddParamComment
    r ∈ (ofSegment "cli.ts" crowdedCommand oddParamComment).1
      ∧ Describes "cli.ts" crowdedCommand oddParamComment r
        (ofSegment "cli.ts" crowdedCommand oddParamComment).2
      ∧ r.alias? = some "b" ∧ r.description = "New" ∧ r.options.map (·.name) = ["force"]
      ∧ (ofSegment "cli.ts" crowdedCommand oddParamComment).2.map (·.line)
        = [some 8, some 12, some 3, some 3] := by
  have hr : recordOf "cli.ts" crowdedCommand oddParamComment
      ∈ (ofSegment "cli.ts" crowdedCommand oddParamComment).1 := by decide
  exact ⟨hr, ofSegment_describes "cli.ts" crowdedCommand oddParamComment hr, by decide⟩

end DocCatalog.Extract.Command
