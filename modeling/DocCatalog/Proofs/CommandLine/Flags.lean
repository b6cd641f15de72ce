import DocCatalog.CommandLine.Arguments
import Mathlib.Data.List.Induction
import Mathlib.Data.List.Nodup

/-!
# What the flags ask for

Flags are read from left to right, and what is read first decides. So the flags of a call either end in
settings, or they split at the first flag that ends the reading.

* **`flagsOf`**: the flags of a call, however they are spread over its arguments.
* **`Harmless`**, **`AsksForText`**, **`Repeats`**: what the flags can come to.
* **`flags_cases`**: they come to one of these.
* **`parseFlags_harmless`**, **`parseFlags_asksForText`**, **`parseFlags_repeats`**: what is read, in
  each case.
-/

namespace DocCatalog.CommandLine

/-! ## Arguments

Which argument a flag came from does not matter for what is read. -/

/-- The flags of a call from left to right. Its first argument is the name of the program. -/
def flagsOf (arguments : List String) : List Flag :=
  (arguments.drop 1).flatMap fun a => (Flag.ofArgument? a).getD []

/-- The arguments of a call that are no flags. -/
def unknownOf (arguments : List String) : List String :=
  (arguments.drop 1).filter fun a => !isKnown a

/-- Only known arguments stand for flags. -/
theorem flatMap_filter_isKnown (arguments : List String) :
    (arguments.filter isKnown).flatMap (fun a => (Flag.ofArgument? a).getD [])
      = arguments.flatMap fun a => (Flag.ofArgument? a).getD [] := by
  induction arguments with
  | nil => rfl
  | cons a arguments ih =>
      cases hflags : Flag.ofArgument? a with
      | none =>
          have hunknown : isKnown a = false := by simp [isKnown, hflags]
          simp [hunknown, hflags, ih]
      | some flags =>
          have hknown : isKnown a = true := by simp [isKnown, hflags]
          simp [hknown, hflags, ih]

/-- The known arguments are read like all flags of the call in a row. -/
theorem parseFlags_partitionArguments (arguments : List String) :
    parseFlags (partitionArguments arguments).1 = applyFlags ⟨false, false⟩ (flagsOf arguments) := by
  cases arguments with
  | nil => rfl
  | cons name arguments => exact congrArg (applyFlags _) (flatMap_filter_isKnown arguments)

/-- The others are the unknown ones. -/
theorem partitionArguments_snd (arguments : List String) :
    (partitionArguments arguments).2 = unknownOf arguments := by
  cases arguments with
  | nil => rfl
  | cons name arguments => rfl

/-! ## Flags

Help and version end the reading, and so does a flag that is repeated. The first of these decides.
-/

/-- The flags ask for nothing but settings, and for none of them twice. -/
structure Harmless (flags : List Flag) : Prop where
  settings : ∀ f ∈ flags, f = .dryRun ∨ f = .verbose
  nodup : flags.Nodup

/-- Before anything is wrong with the flags, one asks for help or for the version. -/
def AsksForText (flags : List Flag) : Prop :=
  ∃ read f rest, flags = read ++ f :: rest ∧ Harmless read ∧ (f = .help ∨ f = .version)

/-- Before any of the flags asks for a text, one is there a second time. -/
def Repeats (flags : List Flag) : Prop :=
  ∃ read f rest, flags = read ++ f :: rest ∧ Harmless read ∧ f ∈ read

/-- The settings that harmless flags ask for. -/
def settingsOf (flags : List Flag) : Settings :=
  ⟨flags.contains .dryRun, flags.contains .verbose⟩

/-- What comes first in harmless flags is harmless. -/
theorem Harmless.of_append {read more : List Flag} (h : Harmless (read ++ more)) :
    Harmless read where
  settings f hf := h.settings f (List.mem_append_left more hf)
  nodup := (List.nodup_append.mp h.nodup).1

/-- One more flag is harmless if it is new and asks for no text. -/
theorem Harmless.concat {flags : List Flag} {f : Flag} (h : Harmless flags)
    (hf : f = .dryRun ∨ f = .verbose) (hnew : f ∉ flags) : Harmless (flags ++ [f]) where
  settings g hg := by
    rcases List.mem_append.mp hg with hg | hg
    · exact h.settings g hg
    · rw [List.mem_singleton.mp hg]
      exact hf
  nodup := by
    rw [List.nodup_append]
    refine ⟨h.nodup, List.nodup_singleton f, ?_⟩
    rintro a ha b hb rfl
    rw [List.mem_singleton.mp hb] at ha
    exact hnew ha

/-- Nothing behind it changes what the flags have come to. -/
theorem AsksForText.append {flags : List Flag} (h : AsksForText flags) (more : List Flag) :
    AsksForText (flags ++ more) := by
  obtain ⟨read, f, rest, rfl, hread, hf⟩ := h
  exact ⟨read, f, rest ++ more, by simp, hread, hf⟩

/-- More flags make no difference to a repetition. -/
theorem Repeats.append {flags : List Flag} (h : Repeats flags) (more : List Flag) :
    Repeats (flags ++ more) := by
  obtain ⟨read, f, rest, rfl, hread, hf⟩ := h
  exact ⟨read, f, rest ++ more, by simp, hread, hf⟩

/-- **The flags come to settings, to a text or to a mistake.** -/
theorem flags_cases (flags : List Flag) : Harmless flags ∨ AsksForText flags ∨ Repeats flags := by
  -- from the end of the flags, since the first one that matters decides
  induction flags using List.reverseRecOn with
  | nil => exact Or.inl ⟨by simp, List.nodup_nil⟩
  | append_singleton flags f ih =>
      rcases ih with hharmless | hasks | hrepeats
      · by_cases hmet : f ∈ flags
        · exact Or.inr (Or.inr ⟨flags, f, [], rfl, hharmless, hmet⟩)
        · cases f with
          | dryRun => exact Or.inl (hharmless.concat (Or.inl rfl) hmet)
          | verbose => exact Or.inl (hharmless.concat (Or.inr rfl) hmet)
          | help => exact Or.inr (Or.inl ⟨flags, .help, [], rfl, hharmless, Or.inl rfl⟩)
          | version => exact Or.inr (Or.inl ⟨flags, .version, [], rfl, hharmless, Or.inr rfl⟩)
      · exact Or.inr (Or.inl (hasks.append [f]))
      · exact Or.inr (Or.inr (hrepeats.append [f]))

/-! ## Reading

What has been read is the settings so far, and they say which flags were met. -/

/-- Harmless flags are read one after the other, each of them into the settings. -/
theorem applyFlags_harmless (read : List Flag) {more : List Flag} (h : Harmless (read ++ more))
    (rest : List Flag) :
    applyFlags (settingsOf read) (more ++ rest) = applyFlags (settingsOf (read ++ more)) rest := by
  induction more generalizing read with
  | nil => rw [List.append_nil, List.nil_append]
  | cons f more ih =>
      have hsplit : read ++ f :: more = (read ++ [f]) ++ more := by simp
      rw [hsplit] at h ⊢
      have hnew : f ∉ read := by
        intro hmet
        have hdisjoint := (List.nodup_append.mp h.of_append.nodup).2.2
        exact hdisjoint f hmet f (List.mem_singleton_self f) rfl
      rw [← ih _ h]
      rcases h.settings f (by simp) with rfl | rfl
      · simp [settingsOf, applyFlags, hnew]
      · simp [settingsOf, applyFlags, hnew]

/-- What stands behind harmless flags is read with their settings. -/
theorem parseFlags_split {arguments : List String} {read rest : List Flag}
    (h : flagsOf arguments = read ++ rest) (hread : Harmless read) :
    parseFlags (partitionArguments arguments).1 = applyFlags (settingsOf read) rest := by
  rw [parseFlags_partitionArguments, h]
  exact applyFlags_harmless [] hread rest

/-- **Harmless flags** give settings. -/
theorem parseFlags_harmless {arguments : List String} (h : Harmless (flagsOf arguments)) :
    parseFlags (partitionArguments arguments).1 = .ok (settingsOf (flagsOf arguments)) :=
  parseFlags_split (List.append_nil _).symm h

/-- **A flag that asks for a text** ends the reading, which is no mistake. -/
theorem parseFlags_asksForText {arguments : List String} (h : AsksForText (flagsOf arguments)) :
    ∃ e : Refusal, parseFlags (partitionArguments arguments).1 = .error e ∧ e.isMistake = false := by
  obtain ⟨read, f, rest, hflags, hread, rfl | rfl⟩ := h
  · exact ⟨.help, parseFlags_split hflags hread, rfl⟩
  · exact ⟨.version, parseFlags_split hflags hread, rfl⟩

/-- **A repeated flag** ends it, too, and is one. -/
theorem parseFlags_repeats {arguments : List String} (h : Repeats (flagsOf arguments)) :
    ∃ e : Refusal, parseFlags (partitionArguments arguments).1 = .error e ∧ e.isMistake = true := by
  obtain ⟨read, f, rest, hflags, hread, hf⟩ := h
  refine ⟨.repeated f, ?_, rfl⟩
  rw [parseFlags_split hflags hread]
  -- only flags that have been read into the settings can be there twice
  rcases hread.settings f hf with rfl | rfl
  · simp [settingsOf, applyFlags, hf]
  · simp [settingsOf, applyFlags, hf]

end DocCatalog.CommandLine
