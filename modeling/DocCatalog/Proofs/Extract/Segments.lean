import DocCatalog.Extract.Command
import Mathlib.Data.List.Forall2
import Mathlib.Data.List.TakeWhile

/-!
# Commands of a chain

A chain of calls is cut in front of every call that registers a command. The parts are the whole chain
from the first such call on, and each of them is read on its own: only the comment of the chain goes to
the first one.

* **`Registers`**, **`Segment.IsCut`**: the calls that begin a part, and what a part is.
* **`splitCalls_append`**: a chain that is cut at a registering call anyway can be cut in two there.
* **`Cuts`**, **`cuts_iff`**: the parts of a chain, and that no other parts are possible.
* **`Answers`**, **`answers_ofFile`**: a registering call gives a record or the warning that there is
  no name.
* **`ofFile_replace`**: a part among others, and what it gives among what they give.
* **`SplitsCommands`**, **`ofFile_splitsCommands`**: what the commands of a file come from.
-/

namespace DocCatalog.Extract.Command

open Script (Value Call)
open Doc (DocComment)

/-! ## Parts

A part begins with a call that registers a command and has no other such call in it. What stands in
front of the first one belongs to no part. -/

/-- The call is `.command()` with a string in front of its arguments. -/
def Registers (call : Call) : Prop :=
  call.callee = "command" ∧ ∃ text arguments, call.arguments = .str text :: arguments

/-- A registering call is told by its name and by having a text for its first argument. -/
theorem isHead_iff {call : Call} : isHead call = true ↔ Registers call := by
  rw [isHead, Bool.and_eq_true, beq_iff_eq, firstString?, Registers]
  refine and_congr_right fun _ => ?_
  cases call.arguments with
  | nil => simp
  | cons v rest => cases v <;> simp [Value.asString?]

instance : DecidablePred Registers := fun _ => decidable_of_iff _ isHead_iff

theorem isHead_eq (call : Call) : isHead call = decide (Registers call) := by
  rw [Bool.eq_iff_iff, isHead_iff, decide_eq_true_iff]

namespace Segment

/-- The calls of a part in their order. -/
def calls (s : Segment) : List Call := s.head :: s.rest

/-- The first call of the part registers a command, and no other one does. -/
structure IsCut (s : Segment) : Prop where
  head : Registers s.head
  rest : ∀ c ∈ s.rest, ¬ Registers c

end Segment

/-- The parts of a list of calls: one behind the other they are the calls from the first registering
one on, and each of them holds one registering call, at its head. -/
structure Cuts (calls : List Call) (parts : List Segment) : Prop where
  whole : parts.flatMap Segment.calls = calls.dropWhile fun c => !decide (Registers c)
  isCut : ∀ s ∈ parts, s.IsCut

variable {c : Call} {s : Segment} {calls before after : List Call} {parts : List Segment}

/-- A registering call begins a part with what stands before the next one. -/
theorem splitCalls_cons_of_head (h : isHead c = true) :
    splitCalls (c :: calls) = ([], ⟨c, (splitCalls calls).1⟩ :: (splitCalls calls).2) := by
  simp only [splitCalls, h, if_true]

/-- Any other call goes to what stands in front. -/
theorem splitCalls_cons_of_not (h : isHead c = false) :
    splitCalls (c :: calls) = (c :: (splitCalls calls).1, (splitCalls calls).2) := by
  simp only [splitCalls, h, Bool.false_eq_true, if_false]

/-- Without a registering call there is no part. -/
theorem splitCalls_of_forall_not (h : ∀ c ∈ calls, isHead c = false) :
    splitCalls calls = (calls, []) := by
  induction calls with
  | nil => rfl
  | cons c calls ih =>
      rw [splitCalls_cons_of_not (h c List.mem_cons_self),
        ih fun d hd => h d (List.mem_cons_of_mem c hd)]

/-- In front stands all up to the first registering call. -/
theorem splitCalls_fst (calls : List Call) :
    (splitCalls calls).1 = calls.takeWhile (!isHead ·) := by
  induction calls with
  | nil => rfl
  | cons c calls ih =>
      cases h : isHead c with
      | true => rw [splitCalls_cons_of_head h, List.takeWhile_cons_of_neg (by simp [h])]
      | false => rw [splitCalls_cons_of_not h, List.takeWhile_cons_of_pos (by simp [h]), ih]

/-- **The parts together** are the chain from there on. -/
theorem flatMap_splitCalls (calls : List Call) :
    (splitCalls calls).2.flatMap Segment.calls = calls.dropWhile (!isHead ·) := by
  induction calls with
  | nil => rfl
  | cons c calls ih =>
      cases h : isHead c with
      | true =>
          rw [splitCalls_cons_of_head h, List.dropWhile_cons_of_neg (by simp [h]), List.flatMap_cons,
            ih, Segment.calls, List.cons_append, splitCalls_fst, List.takeWhile_append_dropWhile]
      | false => rw [splitCalls_cons_of_not h, List.dropWhile_cons_of_pos (by simp [h]), ih]

/-- **Each part** has one registering call, which is its first. -/
theorem isCut_of_mem_splitCalls (h : s ∈ (splitCalls calls).2) : s.IsCut := by
  induction calls with
  | nil => cases h
  | cons c calls ih =>
      cases hc : isHead c with
      | true =>
          rw [splitCalls_cons_of_head hc] at h
          rcases List.mem_cons.mp h with rfl | h
          · refine ⟨isHead_iff.mp hc, fun d hd hregisters => ?_⟩
            rw [splitCalls_fst] at hd
            simpa [isHead_iff.mpr hregisters] using List.mem_takeWhile_imp hd
          · exact ih h
      | false =>
          rw [splitCalls_cons_of_not hc] at h
          exact ih h

/-- The calls begin with a registering one, if there are any. -/
def BeginsPart (calls : List Call) : Prop := ∀ c ∈ calls.head?, Registers c

/-- A chain that begins with a registering call has nothing in front. -/
theorem splitCalls_fst_of_begins (h : BeginsPart calls) : (splitCalls calls).1 = [] := by
  cases calls with
  | nil => rfl
  | cons c calls => rw [splitCalls_cons_of_head (isHead_iff.mpr (h c rfl))]

/-- **Cutting in two** in front of a registering call. -/
theorem splitCalls_append (h : BeginsPart after) :
    splitCalls (before ++ after)
      = ((splitCalls before).1, (splitCalls before).2 ++ (splitCalls after).2) := by
  induction before with
  | nil => exact Prod.ext (splitCalls_fst_of_begins h) rfl
  | cons c before ih =>
      cases hc : isHead c with
      | true =>
          rw [List.cons_append, splitCalls_cons_of_head hc, splitCalls_cons_of_head hc, ih,
            List.cons_append]
      | false => rw [List.cons_append, splitCalls_cons_of_not hc, splitCalls_cons_of_not hc, ih]

/-- A part that is cut again is one part. -/
theorem Segment.IsCut.splitCalls_calls (h : s.IsCut) : splitCalls s.calls = ([], [s]) := by
  have hrest : ∀ c ∈ s.rest, isHead c = false := fun c hc =>
    Bool.eq_false_iff.mpr fun hhead => h.rest c hc (isHead_iff.mp hhead)
  rw [Segment.calls, splitCalls_cons_of_head (isHead_iff.mpr h.head), splitCalls_of_forall_not hrest]

/-- Parts put together begin with the first call of the first one. -/
theorem beginsPart_flatMap_calls (h : ∀ s ∈ parts, s.IsCut) :
    BeginsPart (parts.flatMap Segment.calls) := by
  cases parts with
  | nil => rintro c ⟨⟩
  | cons s parts =>
      rintro c ⟨⟩
      exact (h s List.mem_cons_self).head

/-- Parts are found again where they were put one behind the other. -/
theorem splitCalls_flatMap_calls (h : ∀ s ∈ parts, s.IsCut) :
    splitCalls (parts.flatMap Segment.calls) = ([], parts) := by
  induction parts with
  | nil => rfl
  | cons s parts ih =>
      have hparts := fun t ht => h t (List.mem_cons_of_mem s ht)
      rw [List.flatMap_cons, splitCalls_append (beginsPart_flatMap_calls hparts), ih hparts,
        (h s List.mem_cons_self).splitCalls_calls]
      rfl

/-- **The parts of a chain** are the only ones that there can be. -/
theorem cuts_iff : Cuts calls parts ↔ parts = (splitCalls calls).2 := by
  constructor
  · intro h
    have hwhole := h.whole
    simp only [← isHead_eq] at hwhole
    have hfront : ∀ c ∈ calls.takeWhile (!isHead ·), isHead c = false := fun c hc => by
      simpa using List.mem_takeWhile_imp hc
    have hcalls := List.takeWhile_append_dropWhile (p := (!isHead ·)) (l := calls)
    rw [← hcalls, ← hwhole, splitCalls_append (beginsPart_flatMap_calls h.isCut),
      splitCalls_flatMap_calls h.isCut, splitCalls_of_forall_not hfront, List.nil_append]
  · rintro rfl
    refine ⟨?_, fun s hs => isCut_of_mem_splitCalls hs⟩
    simp only [← isHead_eq]
    exact flatMap_splitCalls calls

/-- There is a part for every registering call, in their order. -/
theorem map_head_splitCalls (calls : List Call) :
    (splitCalls calls).2.map Segment.head = calls.filter isHead := by
  induction calls with
  | nil => rfl
  | cons c calls ih =>
      cases h : isHead c with
      | true => rw [splitCalls_cons_of_head h, List.filter_cons_of_pos h, List.map_cons, ih]
      | false => rw [splitCalls_cons_of_not h, List.filter_cons_of_neg (by simp [h]), ih]

/-! ## What a part gives

A record, or the warning that the name is empty. Other warnings about commands begin otherwise, so
this one can be told from them. -/

/-- The name that a registering call has for its command. -/
def nameIn (head : Call) : List Char := Segment.name ⟨head, []⟩

/-- A registering call is answered by a record of the command, or by the warning that it has no name. -/
inductive Answers (path : String) (head : Call) : CommandRecord ⊕ Diagnostic → Prop
  | record {r : CommandRecord} (hname : nameIn head ≠ []) (name : r.name = String.ofList (nameIn head))
      (provenance : r.provenance = ⟨path, head.line⟩) : Answers path head (.inl r)
  | unnamed (hname : nameIn head = []) :
      Answers path head (.inr (Finding.unnamedCommand.place path (some head.line)))

/-- Whether a diagnostic is the warning that a command has no name. -/
def saysUnnamed (d : Diagnostic) : Bool := d.message == "`.command()` with an empty name"

/-- What a part comes to. -/
def answerOf (path : String) (s : Segment) (doc : DocComment) : CommandRecord ⊕ Diagnostic :=
  if s.name.isEmpty then .inr (Finding.unnamedCommand.place path (some s.head.line))
  else .inl (recordOf path s doc)

section Part

variable (path : String) (s : Segment) (doc : DocComment)

/-- A part is answered by its record or by this warning. -/
theorem answers_answerOf : Answers path s.head (answerOf path s doc) := by
  unfold answerOf
  split
  · next h => exact .unnamed (List.isEmpty_iff.mp h)
  · next h => exact .record (fun hnil => h (List.isEmpty_iff.mpr hnil)) rfl rfl

/-- The record of a part, if it has one. -/
theorem fst_ofSegment : (ofSegment path s doc).1 = (answerOf path s doc).getLeft?.toList := by
  unfold ofSegment answerOf
  split <;> rfl

/-- The message about a param names the command first, whatever the param is. -/
theorem message_oddParam (command value : String) :
    ∃ rest, (Finding.oddParam command value).message = "command `" ++ rest := by
  have hmessage : (Finding.oddParam command value).message = "command `" ++ command
      ++ "`: @param `" ++ value ++ "` is not of the form `name - description`" := rfl
  exact ⟨_, by rw [hmessage, String.append_assoc, String.append_assoc, String.append_assoc]⟩

theorem message_of_mem_warningsOf {d : Diagnostic} (h : d ∈ warningsOf path s doc) :
    ∃ rest, d.message = "command `" ++ rest := by
  unfold warningsOf at h
  rcases List.mem_append.mp h with hflag | hrest
  · obtain ⟨call, -, rfl⟩ := List.mem_map.mp hflag
    exact ⟨_, String.append_assoc⟩
  · split at hrest
    · obtain ⟨value, -, rfl⟩ := List.mem_map.mp hrest
      exact message_oddParam (String.ofList s.name) value
    · split at hrest
      · rw [List.mem_singleton.mp hrest]
        exact ⟨_, String.append_assoc⟩
      · cases hrest

/-- The other warnings about a command begin with its name. -/
theorem saysUnnamed_of_mem_warningsOf {d : Diagnostic} (h : d ∈ warningsOf path s doc) :
    saysUnnamed d = false := by
  obtain ⟨rest, hmessage⟩ := message_of_mem_warningsOf path s doc h
  refine beq_eq_false_iff_ne.mpr fun heq => ?_
  have hfirst := congrArg (fun m : String => m.toList.head?) (hmessage.symm.trans heq)
  rw [String.toList_append] at hfirst
  cases hfirst

/-- Among the warnings of a part there is the one about an empty name exactly where this is the
answer. -/
theorem filter_saysUnnamed_ofSegment :
    (ofSegment path s doc).2.filter saysUnnamed = (answerOf path s doc).getRight?.toList := by
  unfold ofSegment answerOf
  split
  · rfl
  · exact List.filter_eq_nil_iff.mpr fun d hd => by
      simp [saysUnnamed_of_mem_warningsOf path s doc hd]

end Part

/-! ## Files

The parts of all chains of a file are answered one after the other. Only the number of a part in its
chain matters besides: the comment of the chain goes to the part with number zero. -/

/-- What parts give, each with the comment that documents it. -/
def resultsOf (path : String) (parts : List (Segment × DocComment)) :
    List CommandRecord × List Diagnostic :=
  (parts.flatMap fun (s, doc) => (ofSegment path s doc).1,
    parts.flatMap fun (s, doc) => (ofSegment path s doc).2)

/-- The comment that documents the part with the given number in a chain. -/
def docOf (chain : CallChain) (i : Nat) : DocComment :=
  if i = 0 then DocComment.ofNode chain.comment else DocComment.empty

/-- Of the results of a file one part gives `given`, and the others give what stands around it. -/
structure Between (earlier given later : List CommandRecord × List Diagnostic)
    (result : FileResult CommandRecord) : Prop where
  records : result.records = earlier.1 ++ given.1 ++ later.1
  diagnostics : result.diagnostics = earlier.2 ++ given.2 ++ later.2

/-- What the commands of a file come from. -/
structure SplitsCommands (path : String) : Prop where
  cuts : ∀ chain : CallChain, Cuts chain.calls (segments chain)
  /-- Every registering call is answered once. -/
  answered : ∀ o : Outline, ∃ answers, List.Forall₂ (Answers path)
      ((o.chains.flatMap (·.calls)).filter (Registers ·)) answers
    ∧ (ofFile o path).records = answers.filterMap Sum.getLeft?
    ∧ (ofFile o path).diagnostics.filter saysUnnamed = answers.filterMap Sum.getRight?
  /-- A part is read on its own, the first one of a chain with the comment of the chain. -/
  alone : ∀ o : Outline,
    let parts := o.chains.flatMap fun chain =>
      (segments chain).zipIdx.map fun (s, i) => (s, docOf chain i)
    ((ofFile o path).records, (ofFile o path).diagnostics) = resultsOf path parts
  /-- The calls of one part may be others: all that is given by other parts stays. -/
  replaced : ∀ (front back : List CallChain) (chain : CallChain) (before after : List Call),
    BeginsPart after → ∃ earlier later, ∀ (declarations : List Declaration) (s : Segment), s.IsCut →
      Between earlier (ofSegment path s (docOf chain (segments { chain with calls := before }).length))
        later
        (ofFile ⟨declarations,
          front ++ { chain with calls := before ++ s.calls ++ after } :: back⟩ path)

section File

variable (path : String)

/-- Each part is given the comment for its number. -/
theorem documented_eq (chain : CallChain) :
    documented chain = (segments chain).zipIdx.map fun (s, i) => (s, docOf chain i) := by
  unfold documented
  cases segments chain with
  | nil => rfl
  | cons s rest =>
      rw [List.zipIdx_cons, List.map_cons]
      refine congrArg ((s, DocComment.ofNode chain.comment) :: ·) ?_
      -- the numbers of the parts behind the first one are not 0
      have hdoc : ∀ p ∈ rest.zipIdx 1, (p.1, DocComment.empty) = (p.1, docOf chain p.2) := by
        intro p hp
        have hpositive : 1 ≤ p.2 := List.le_snd_of_mem_zipIdx hp
        rw [docOf, if_neg (by omega)]
      conv_lhs => rw [← List.zipIdx_map_fst 1 rest, List.map_map]
      exact List.map_congr_left hdoc

/-- **A file gives** what its parts give, in their order. -/
theorem ofFile_eq (o : Outline) :
    ((ofFile o path).records, (ofFile o path).diagnostics)
      = resultsOf path (o.chains.flatMap documented) := by
  simp only [ofFile, resultsOf, List.flatMap_map]

/-- There is a part for every registering call of the file. -/
theorem map_head_documented (chains : List CallChain) :
    (chains.flatMap documented).map (·.1.head) = (chains.flatMap (·.calls)).filter isHead := by
  rw [List.map_flatMap, List.filter_flatMap]
  refine List.flatMap_congr fun chain _ => ?_
  have hparts : (documented chain).map Prod.fst = segments chain := by
    rw [documented_eq, List.map_map]
    exact List.zipIdx_map_fst 0 (segments chain)
  rw [← map_head_splitCalls, ← segments, ← hparts, List.map_map]
  rfl

/-- **Every registering call is answered once.** -/
theorem answers_ofFile (path : String) (o : Outline) :
    ∃ answers, List.Forall₂ (Answers path) ((o.chains.flatMap (·.calls)).filter (Registers ·)) answers
      ∧ (ofFile o path).records = answers.filterMap Sum.getLeft?
      ∧ (ofFile o path).diagnostics.filter saysUnnamed = answers.filterMap Sum.getRight? := by
  obtain ⟨hrecords, hdiagnostics⟩ := Prod.mk.inj (ofFile_eq path o)
  refine ⟨(o.chains.flatMap documented).map fun (s, doc) => answerOf path s doc, ?_, ?_, ?_⟩
  · simp only [← isHead_eq]
    rw [← map_head_documented, List.forall₂_map_left_iff, List.forall₂_map_right_iff, List.forall₂_same]
    exact fun part _ => answers_answerOf path part.1 part.2
  · rw [hrecords, List.filterMap_map, List.filterMap_eq_flatMap_toList]
    exact List.flatMap_congr fun part _ => fst_ofSegment path part.1 part.2
  · rw [hdiagnostics, List.filterMap_map, List.filterMap_eq_flatMap_toList, List.filter_flatMap]
    exact List.flatMap_congr fun part _ => filter_saysUnnamed_ofSegment path part.1 part.2

/-- **One part among the others** of its chain. -/
theorem documented_replace (chain : CallChain) (before : List Call) (hafter : BeginsPart after) :
    ∃ front back, ∀ s : Segment, s.IsCut →
      documented { chain with calls := before ++ s.calls ++ after }
        = front ++ (s, docOf chain (segments { chain with calls := before }).length) :: back := by
  refine ⟨documented { chain with calls := before },
    ((splitCalls after).2.zipIdx ((splitCalls before).2.length + 1)).map fun (s, i) => (s, docOf chain i),
    fun s hs => ?_⟩
  have hbegins : BeginsPart (s.calls ++ after) := by
    rintro c ⟨⟩
    exact hs.head
  have hparts : segments { chain with calls := before ++ s.calls ++ after }
      = segments { chain with calls := before } ++ s :: (splitCalls after).2 := by
    rw [segments, segments, List.append_assoc, splitCalls_append hbegins, splitCalls_append hafter,
      hs.splitCalls_calls]
    rfl
  rw [documented_eq, documented_eq, hparts, List.zipIdx_append, List.map_append, List.zipIdx_cons,
    List.map_cons, Nat.zero_add]
  rfl

/-- **One part among others**: whatever stands in its place, what stands before and behind gives the
same. -/
theorem ofFile_replace (path : String) (front back : List CallChain) (chain : CallChain)
    (before : List Call) (hafter : BeginsPart after) :
    ∃ earlier later, ∀ (declarations : List Declaration) (s : Segment), s.IsCut →
      Between earlier (ofSegment path s (docOf chain (segments { chain with calls := before }).length))
        later
        (ofFile ⟨declarations,
          front ++ { chain with calls := before ++ s.calls ++ after } :: back⟩ path) := by
  obtain ⟨earlier, later, hparts⟩ := documented_replace chain before hafter
  refine ⟨resultsOf path (front.flatMap documented ++ earlier),
    resultsOf path (later ++ back.flatMap documented), fun declarations s hs => ?_⟩
  obtain ⟨hrecords, hdiagnostics⟩ := Prod.mk.inj (ofFile_eq path
    ⟨declarations, front ++ { chain with calls := before ++ s.calls ++ after } :: back⟩)
  -- the segments of all chains part at the one that was put in
  have hall : (front ++ { chain with calls := before ++ s.calls ++ after } :: back).flatMap documented
      = (front.flatMap documented ++ earlier)
        ++ (s, docOf chain (segments { chain with calls := before }).length)
          :: (later ++ back.flatMap documented) := by
    rw [List.flatMap_append, List.flatMap_cons, hparts s hs]
    simp only [List.append_assoc, List.cons_append]
  constructor
  · rw [hrecords, hall]
    simp only [resultsOf, List.flatMap_append, List.flatMap_cons, List.append_assoc]
  · rw [hdiagnostics, hall]
    simp only [resultsOf, List.flatMap_append, List.flatMap_cons, List.append_assoc]

/-- **The commands of a file**: its chains are cut at the registering calls, each of which is answered
once, and what stands in one part has no part in what others give. -/
theorem ofFile_splitsCommands (path : String) : SplitsCommands path where
  cuts chain := cuts_iff.mpr rfl
  answered := answers_ofFile path
  alone o := by
    rw [ofFile_eq, List.flatMap_congr fun chain _ => documented_eq chain]
  replaced front back chain before _ hafter := ofFile_replace path front back chain before hafter

/-- Between two other commands of a chain any part may stand, and its name may be missing. -/
theorem ofFile_splitsCommands_between :
    let first : Call := ⟨"command", none, [.str "a"], 1⟩
    let last : Call := ⟨"command", none, [.str "c"], 3⟩
    BeginsPart [last] ∧ Segment.IsCut ⟨⟨"command", none, [.str " "], 2⟩, [⟨"alias", none, [], 2⟩]⟩
      ∧ ∃ earlier later, ∀ (declarations : List Declaration) (s : Segment), s.IsCut →
        Between earlier (ofSegment "cli.ts" s DocComment.empty) later
          (ofFile ⟨declarations, [⟨1, none, "program", [first] ++ s.calls ++ [last]⟩]⟩ "cli.ts") := by
  have hbegins : BeginsPart [⟨"command", none, [.str "c"], 3⟩] := by
    rintro c ⟨⟩
    exact ⟨rfl, "c", [], rfl⟩
  refine ⟨hbegins, ⟨⟨rfl, " ", [], rfl⟩, by decide⟩, ?_⟩
  exact (ofFile_splitsCommands "cli.ts").replaced [] [] ⟨1, none, "program", []⟩
    [⟨"command", none, [.str "a"], 1⟩] [⟨"command", none, [.str "c"], 3⟩] hbegins

end File

end DocCatalog.Extract.Command
