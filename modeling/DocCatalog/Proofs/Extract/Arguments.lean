import DocCatalog.Extract.Command
import Mathlib.Data.List.Induction
import Mathlib.Data.List.Nodup

/-!
# Arguments of a command

The arguments of a command come from its usage, from the calls behind it and from its comment. They are
told apart by their names, so all that is added is read off what is found under a name before and after.

* **`usageArguments`**, **`declaredArguments`**: what there is to merge.
* **`map_name_foldl_mergeArgument`**, **`named?_foldl_mergeArgument`**: the names behind all calls, and
  what is found under one of them.
* **`named?_foldl_describe`**: what the comment adds to that.
* **`MergesByName`**, **`arguments_mergesByName`**: the arguments of a command.
-/

namespace DocCatalog.Extract.Command

open Script (Call)
open Doc (DocComment Param)

/-! ## What there is to merge

Three sources: the usage names arguments and says which are required, calls may name further ones
and describe them, the comment describes only. -/

/-- The arguments in the usage of a command, behind its name. -/
def usageArguments (s : Segment) : List CommandArgument :=
  ((Text.words s.usage).drop 1).filterMap argumentOf?

/-- The arguments that are declared by calls, as often as they are. -/
def declaredArguments (s : Segment) : List CommandArgument :=
  (s.callsNamed ["argument"]).filterMap declaredArgument?

/-- The calls are merged one by one into what the usage says. -/
theorem calledArguments_eq (s : Segment) :
    calledArguments s = (declaredArguments s).foldl mergeArgument (usageArguments s) := rfl

/-- Whether a call declares the argument of that name. -/
def declares (name : String) (call : Call) : Bool :=
  call.callee == "argument" && (declaredArgument? call).any (·.name == name)

/-- The description of an argument in the last call that declares it, without outer blanks. Nothing if
no call does. -/
def calledFor (s : Segment) (name : String) : String :=
  ((s.rest.filter (declares name)).getLast?.map (Flag.stringArgument · 1)).getD ""

/-- The first description among the parameters of that name that says something. -/
def describedBy (params : List Param) (name : String) : String :=
  (((params.filter (·.name == name)).map (·.description)).find? (!·.isEmpty)).getD ""

/-- The arguments of a command, merged by their names. -/
structure MergesByName (s : Segment) (doc : DocComment) (merged : List CommandArgument) : Prop where
  /-- Those in the usage, and then the others where they are first declared. -/
  names : merged.map (·.name) = (usageArguments s).map (·.name)
    ++ (((declaredArguments s).map (·.name)).removeAll ((usageArguments s).map (·.name))).eraseDups
  distinct : (merged.map (·.name)).Nodup
  /-- The first mention says whether an argument is required. -/
  required : ∀ a ∈ merged, ((usageArguments s ++ declaredArguments s).find? (·.name == a.name)).map
    (·.isRequired) = some a.isRequired
  called : ∀ a ∈ merged, calledFor s a.name ≠ "" → a.description = calledFor s a.name
  documented : ∀ a ∈ merged, calledFor s a.name = "" →
    a.description = if doc.isDoc then describedBy doc.params a.name else ""

/-! ## Names

A list of arguments is known by what is found under each name, as long as no name comes twice. So
every step is described by what it does to the names and to what is found. -/

/-- What is found under a name. -/
def named? (name : String) (arguments : List CommandArgument) : Option CommandArgument :=
  arguments.find? (·.name == name)

variable {a : CommandArgument} {arguments declared : List CommandArgument} {name : String}

/-- With distinct names each argument is found under its own. -/
theorem named?_of_mem (hdistinct : (arguments.map (·.name)).Nodup) (h : a ∈ arguments) :
    named? a.name arguments = some a := by
  induction arguments with
  | nil => cases h
  | cons b arguments ih =>
      obtain ⟨hnot, hrest⟩ := List.nodup_cons.mp hdistinct
      rcases List.mem_cons.mp h with rfl | h
      · exact List.find?_cons_of_pos (beq_self_eq_true a.name)
      · have hother : b.name ≠ a.name := fun heq =>
          hnot (List.mem_map.mpr ⟨a, h, heq.symm⟩)
        rw [named?, List.find?_cons_of_neg (by simpa using hother)]
        exact ih hrest h

/-- The last argument is found where no other one has its name. -/
theorem named?_concat : named? name (arguments ++ [a])
    = (named? name arguments).or (if a.name = name then some a else none) := by
  rw [named?, named?, List.find?_append]
  by_cases h : a.name = name <;> simp [h]

/-! ## Calls

A call changes the argument that has its name, or puts a new one behind the others. -/

/-- The argument under a name after one more call. -/
theorem named?_mergeArgument : named? name (mergeArgument arguments a)
    = if a.name = name then
        some (((named? name arguments).map ({ · with description := a.description })).getD a)
      else named? name arguments := by
  induction arguments with
  | nil => by_cases h : a.name = name <;> simp [mergeArgument, named?, h]
  | cons b arguments ih =>
      rw [mergeArgument]
      by_cases hba : b.name = a.name
      · rw [if_pos (by simpa using hba)]
        by_cases ha : a.name = name <;> simp [named?, hba, ha]
      · rw [if_neg (by simpa using hba)]
        by_cases hb : b.name = name
        · have ha : a.name ≠ name := fun heq => hba (hb.trans heq.symm)
          simp [named?, hb, ha]
        · have hskip : ∀ rest, named? name (b :: rest) = named? name rest := fun rest =>
            List.find?_cons_of_neg (by simpa using hb)
          rw [hskip, hskip, ih]

/-- No name is lost, and one is added if it is new. -/
theorem map_name_mergeArgument : (mergeArgument arguments a).map (·.name)
    = arguments.map (·.name) ++ if a.name ∈ arguments.map (·.name) then [] else [a.name] := by
  induction arguments with
  | nil => rfl
  | cons b arguments ih =>
      rw [mergeArgument]
      by_cases hba : b.name = a.name
      · simp [hba]
      · rw [if_neg (by simpa using hba), List.map_cons, ih, List.map_cons, List.cons_append]
        simp only [List.mem_cons, Ne.symm hba, false_or]

/-- The names remain distinct. -/
theorem nodup_mergeArgument (h : (arguments.map (·.name)).Nodup) :
    ((mergeArgument arguments a).map (·.name)).Nodup := by
  rw [map_name_mergeArgument]
  split
  · rwa [List.append_nil]
  · next hnew => exact List.nodup_append.mpr ⟨h, List.nodup_singleton _, by simpa using hnew⟩

theorem nodup_foldl_mergeArgument (h : (arguments.map (·.name)).Nodup) :
    ((declared.foldl mergeArgument arguments).map (·.name)).Nodup := by
  induction declared generalizing arguments with
  | nil => exact h
  | cons d declared ih => exact ih (nodup_mergeArgument h)

/-- One more name counts if it is new. -/
theorem eraseDups_concat (names : List String) (n : String) :
    (names ++ [n]).eraseDups = names.eraseDups ++ if n ∈ names then [] else [n] := by
  rw [List.eraseDups_append]
  by_cases h : n ∈ names <;> simp [List.removeAll, List.eraseDups_cons, h]

/-- One more name is left if it is none of the others. -/
theorem removeAll_concat (names others : List String) (n : String) :
    (names ++ [n]).removeAll others = names.removeAll others ++ if n ∈ others then [] else [n] := by
  by_cases h : n ∈ others <;> simp [List.removeAll, h]

/-- **The names behind all calls**, those that were there before in front. -/
theorem map_name_foldl_mergeArgument (arguments declared : List CommandArgument) :
    (declared.foldl mergeArgument arguments).map (·.name) = arguments.map (·.name)
      ++ ((declared.map (·.name)).removeAll (arguments.map (·.name))).eraseDups := by
  induction declared using List.reverseRecOn with
  | nil => simp [List.removeAll]
  | append_singleton declared d ih =>
      rw [List.foldl_concat, map_name_mergeArgument, ih, List.append_assoc, List.map_append,
        List.map_singleton, removeAll_concat]
      refine congrArg (arguments.map (·.name) ++ ·) ?_
      by_cases hbefore : d.name ∈ arguments.map (·.name)
      · rw [if_pos (List.mem_append_left _ hbefore), if_pos hbefore, List.append_nil, List.append_nil]
      · rw [if_neg hbefore, eraseDups_concat]
        simp only [List.mem_append, hbefore, false_or, List.mem_eraseDups]

/-- **What is found behind all calls**: the first mention with the description of the last call. -/
theorem named?_foldl_mergeArgument (arguments declared : List CommandArgument) :
    named? name (declared.foldl mergeArgument arguments)
      = (named? name (arguments ++ declared)).map fun a =>
        { a with description := ((declared.filter (·.name == name)).getLast?.map
          (·.description)).getD a.description } := by
  induction declared using List.reverseRecOn with
  | nil => simp
  | append_singleton declared d ih =>
      rw [List.foldl_concat, named?_mergeArgument, ih, ← List.append_assoc, named?_concat,
        List.filter_append]
      by_cases hd : d.name = name
      · subst hd
        cases named? d.name (arguments ++ declared) <;> simp
      · simp [hd]

/-- A call describes its argument by its second text. -/
theorem description_declaredArgument? {call : Call} (h : declaredArgument? call = some a) :
    a.description = Flag.stringArgument call 1 := by
  simp only [declaredArgument?, Option.bind_eq_bind, Option.bind_eq_some_iff] at h
  obtain ⟨-, -, b, -, hb⟩ := h
  cases hb
  rfl

/-- The descriptions under a name are the second texts of the calls that declare it. -/
theorem map_description_declared (calls : List Call) (name : String) :
    (((calls.filter fun c => ["argument"].contains c.callee).filterMap declaredArgument?).filter
        (·.name == name)).map (·.description)
      = (calls.filter (declares name)).map (Flag.stringArgument · 1) := by
  induction calls with
  | nil => rfl
  | cons c calls ih =>
      by_cases hcallee : c.callee = "argument"
      · cases hdeclared : declaredArgument? c with
        | none => simpa [hcallee, declares, hdeclared] using ih
        | some a =>
            have hdescription := description_declaredArgument? hdeclared
            by_cases hname : a.name = name <;>
              simpa [hcallee, declares, hdeclared, hname, hdescription] using ih
      · simpa [hcallee, declares] using ih

/-- The last of them counts. -/
theorem getLast?_declared (s : Segment) (name : String) :
    (((declaredArguments s).filter (·.name == name)).getLast?.map (·.description)).getD ""
      = calledFor s name := by
  rw [calledFor, ← List.getLast?_map, ← List.getLast?_map, ← map_description_declared]
  rfl

/-- The usage describes nothing. -/
theorem description_usage {a : CommandArgument} {s : Segment} (h : a ∈ usageArguments s) :
    a.description = "" := by
  obtain ⟨token, -, htoken⟩ := List.mem_filterMap.mp h
  simp only [argumentOf?, Option.bind_eq_bind, Option.bind_eq_some_iff] at htoken
  obtain ⟨read, -, htoken⟩ := htoken
  split at htoken
  · cases htoken
  · cases htoken
    rfl

/-- **What is found behind the calls of a command**: the first mention, described by the last call. -/
theorem named?_calledArguments (s : Segment) (name : String) :
    named? name (calledArguments s) = (named? name (usageArguments s ++ declaredArguments s)).map
      ({ · with description := calledFor s name }) := by
  rw [calledArguments_eq, named?_foldl_mergeArgument]
  refine Option.map_congr fun a ha => ?_
  have hlast := getLast?_declared s name
  cases hfound : ((declaredArguments s).filter (·.name == name)).getLast? with
  | some d =>
      rw [hfound] at hlast
      rw [← hlast]
      rfl
  | none =>
      rw [hfound] at hlast
      -- no call declares it, so it stands in the usage, where nothing is described
      have hname := List.find?_some ha
      have hnone := List.filter_eq_nil_iff.mp (List.getLast?_eq_none_iff.mp hfound)
      have husage : a ∈ usageArguments s :=
        (List.mem_append.mp (List.mem_of_find?_eq_some ha)).resolve_right fun h => hnone a h hname
      rw [← hlast]
      exact congrArg (CommandArgument.mk a.name · a.isRequired) (description_usage husage)

/-! ## Parameters

A param of the comment describes the argument of its name if nothing does so yet. So the first one
that says something counts. -/

/-- What a parameter adds to an argument of its name. -/
def fill (description : String) (a : CommandArgument) : CommandArgument :=
  if a.description.isEmpty then { a with description := description } else a

/-- Describing changes no name. -/
theorem map_name_describe (arguments : List CommandArgument) (p : Param) :
    (describe arguments p).map (·.name) = arguments.map (·.name) := by
  induction arguments with
  | nil => rfl
  | cons b arguments ih =>
      rw [describe]
      split
      · split <;> rfl
      · rw [List.map_cons, List.map_cons, ih]

/-- What is found under the name of the param is filled in, all else stays. -/
theorem named?_describe (arguments : List CommandArgument) (p : Param) :
    named? name (describe arguments p) = if p.name = name then
      (named? name arguments).map (fill p.description) else named? name arguments := by
  induction arguments with
  | nil => simp [describe, named?]
  | cons b arguments ih =>
      rw [describe]
      by_cases hbp : b.name = p.name
      · rw [if_pos (by simpa using hbp)]
        by_cases hp : p.name = name
        · -- the argument that is filled is the one that is looked for
          by_cases hempty : b.description.isEmpty <;> simp [named?, fill, hbp, hp, hempty]
        · by_cases hempty : b.description.isEmpty <;> simp [named?, hbp, hp, hempty]
      · rw [if_neg (by simpa using hbp)]
        by_cases hb : b.name = name
        · -- the one that is looked for stands before the one that is filled
          have hp : p.name ≠ name := fun heq => hbp (hb.trans heq.symm)
          simp [named?, hb, hp]
        · have hskip : ∀ rest, named? name (b :: rest) = named? name rest := fun rest =>
            List.find?_cons_of_neg (by simpa using hb)
          rw [hskip, hskip, ih]

/-- No param changes a name. -/
theorem map_name_foldl_describe (arguments : List CommandArgument) (params : List Param) :
    (params.foldl describe arguments).map (·.name) = arguments.map (·.name) := by
  induction params generalizing arguments with
  | nil => rfl
  | cons p params ih => rw [List.foldl_cons, ih, map_name_describe]

/-- An empty description fills nothing in. -/
theorem fill_empty : fill "" = id := by
  funext a
  unfold fill
  split
  · next h => rw [← String.isEmpty_iff.mp h, id_eq]
  · rfl

/-- Of two descriptions the first one counts, unless it is empty. -/
theorem fill_fill (a : CommandArgument) (d d' : String) :
    fill d' (fill d a) = fill (if d.isEmpty then d' else d) a := by
  unfold fill
  by_cases ha : a.description.isEmpty <;> by_cases hd : d.isEmpty <;> simp [ha, hd]

/-- The first param of a name that is not empty is asked for. -/
theorem describedBy_cons (p : Param) (params : List Param) (name : String) :
    describedBy (p :: params) name = if p.name = name ∧ p.description.isEmpty = false then
      p.description else describedBy params name := by
  unfold describedBy
  by_cases hp : p.name = name <;> cases hempty : p.description.isEmpty <;> simp [hp, hempty]

/-- **What is found behind all parameters**: where there was no description, the first of theirs. -/
theorem named?_foldl_describe (arguments : List CommandArgument) (params : List Param) :
    named? name (params.foldl describe arguments)
      = (named? name arguments).map (fill (describedBy params name)) := by
  induction params generalizing arguments with
  | nil =>
      have hfill : fill (describedBy [] name) = id := fill_empty
      rw [hfill, Option.map_id]
      rfl
  | cons p params ih =>
      rw [List.foldl_cons, ih, named?_describe, describedBy_cons]
      by_cases hp : p.name = name
      · rw [if_pos hp, Option.map_map]
        refine congrArg (Option.map · _) (funext fun a => ?_)
        rw [Function.comp_apply, fill_fill]
        cases hempty : p.description.isEmpty <;> simp [hp]
      · rw [if_neg hp, if_neg fun h => hp h.1]

/-! ## All arguments

The calls and then the params, in terms of names. -/

variable (s : Segment) (doc : DocComment)

/-- The names are those of the usage and of the calls. -/
theorem map_name_argumentsOf :
    (argumentsOf s doc).map (·.name) = (calledArguments s).map (·.name) := by
  unfold argumentsOf
  split
  · exact map_name_foldl_describe _ _
  · rfl

/-- **What is found under a name** is the argument that was named first, with the description of the
last call or, where this is empty, of the first param. -/
theorem named?_argumentsOf (name : String) :
    named? name (argumentsOf s doc)
      = (named? name (usageArguments s ++ declaredArguments s)).map fun a =>
        fill (if doc.isDoc then describedBy doc.params name else "")
          { a with description := calledFor s name } := by
  unfold argumentsOf
  split
  · rw [named?_foldl_describe, named?_calledArguments, Option.map_map]
    rfl
  · rw [fill_empty, named?_calledArguments]
    rfl

/-- **The arguments of a command** are merged by their names. -/
theorem arguments_mergesByName (path : String)
    (husage : ((usageArguments s).map (·.name)).Nodup) :
    MergesByName s doc (recordOf path s doc).arguments := by
  have hnames := map_name_argumentsOf s doc
  have hdistinct : ((argumentsOf s doc).map (·.name)).Nodup := by
    rw [hnames]
    exact nodup_foldl_mergeArgument husage
  -- an argument is what is found under its name
  have hfirst : ∀ a ∈ argumentsOf s doc, ∃ m,
      named? a.name (usageArguments s ++ declaredArguments s) = some m ∧
        fill (if doc.isDoc then describedBy doc.params a.name else "")
          { m with description := calledFor s a.name } = a := by
    intro a ha
    have hfound := named?_of_mem hdistinct ha
    rw [named?_argumentsOf, Option.map_eq_some_iff] at hfound
    exact hfound
  refine ⟨?_, hdistinct, fun a ha => ?_, fun a ha hcalled => ?_, fun a ha hnone => ?_⟩
  · exact hnames.trans (map_name_foldl_mergeArgument _ _)
  · obtain ⟨m, hm, hfill⟩ := hfirst a ha
    have hrequired : m.isRequired = a.isRequired := by
      rw [← hfill, fill]
      split <;> rfl
    rw [← hrequired, ← named?, hm, Option.map_some]
  · obtain ⟨m, -, hfill⟩ := hfirst a ha
    have hdescription := congrArg (·.description) hfill
    simp only [fill, String.isEmpty_iff, if_neg hcalled] at hdescription
    exact hdescription.symm
  · obtain ⟨m, -, hfill⟩ := hfirst a ha
    have hdescription := congrArg (·.description) hfill
    simp only [fill, hnone, String.isEmpty_iff, if_true] at hdescription
    exact hdescription.symm

/-- A command with an argument that two calls declare, and one that a call describes. -/
def repeatedArguments : Segment :=
  ⟨⟨"command", none, [.str "add <file> [name]"], 1⟩,
    [⟨"argument", none, [.str "<kind>", .str "K"], 2⟩,
      ⟨"argument", none, [.str "<name>", .str " N "], 3⟩,
      ⟨"argument", none, [.str "[kind]"], 4⟩]⟩

/-- It describes an argument that a call has declared. -/
def kindComment : DocComment := DocComment.ofNode (some "/** @param kind - of file */")

/-- An argument that is declared by two calls, and one that is named in the usage and described by a
call. -/
theorem arguments_mergesByName_repeated :
    ((usageArguments repeatedArguments).map (·.name)).Nodup
      ∧ MergesByName repeatedArguments kindComment
        (recordOf "cli.ts" repeatedArguments kindComment).arguments
      ∧ (recordOf "cli.ts" repeatedArguments kindComment).arguments
        = [⟨"file", "", true⟩, ⟨"name", "N", false⟩, ⟨"kind", "of file", true⟩] := by
  have husage : ((usageArguments repeatedArguments).map (·.name)).Nodup := by decide
  refine ⟨husage, arguments_mergesByName repeatedArguments kindComment "cli.ts" husage, ?_⟩
  decide

end DocCatalog.Extract.Command
