import DocCatalog.Proofs.CommandLine.Flags

/-!
# Only flags are parsed

The arguments behind the name of the program are parted before they are parsed: flags on one side, all
else on the other. So whatever stands on the command line, the parser meets nothing that it does not
know.

* **`IsFlag`**: an argument that is a flag, letter by letter.
* **`Parts`**, **`Partitions`**: arguments that are parted and keep their order.
* **`ReadsFlags`**: what is assumed of a parser. It may do anything with what is no flag.
* **`read_argument`**, **`read_known`**: one flag is parsed, and then all of them.
* **`partition_understood`**: known arguments are understood by every such parser.
-/

namespace DocCatalog.CommandLine

/-! ## Flags

A flag is told by its letters: it is one of the long names, or a dash and letters that each stand
for a flag. -/

/-- The argument is a dash and letters of flags, of one at least. -/
structure IsCluster (argument : String) (letters : List Char) : Prop where
  text : argument.toList = '-' :: letters
  ne_nil : letters ≠ []
  letters : ∀ c ∈ letters, c ∈ ['d', 'v', 'h', 'V']

/-- The argument is one of the long flags or a cluster. -/
def IsFlag (argument : String) : Prop :=
  argument ∈ ["--dry-run", "--verbose", "--help", "--version"] ∨ ∃ letters, IsCluster argument letters

/-- The argument asks for the flag with the given name and letter, alone or among others. -/
def AsksFor (name : String) (letter : Char) (argument : String) : Prop :=
  argument = name ∨ ∃ letters, IsCluster argument letters ∧ letter ∈ letters

/-- The letter of a flag. -/
def Flag.letter : Flag → Char
  | .dryRun => 'd'
  | .verbose => 'v'
  | .help => 'h'
  | .version => 'V'

/-- Every flag has one letter of its own. -/
theorem ofLetter?_eq_some_iff {c : Char} {f : Flag} : Flag.ofLetter? c = some f ↔ c = f.letter := by
  unfold Flag.ofLetter?
  cases f <;> split <;> simp_all [Flag.letter]

theorem ofLetter?_isSome_iff {c : Char} : (Flag.ofLetter? c).isSome ↔ c ∈ ['d', 'v', 'h', 'V'] := by
  unfold Flag.ofLetter?
  split <;> simp_all

/-- A cluster is one only if all its letters stand for flags. -/
theorem ofCluster?_isSome_iff {letters : List Char} :
    (Flag.ofCluster? letters).isSome ↔ ∀ c ∈ letters, c ∈ ['d', 'v', 'h', 'V'] := by
  induction letters with
  | nil => simp [Flag.ofCluster?]
  | cons c letters ih =>
      rw [List.forall_mem_cons, ← ih, ← ofLetter?_isSome_iff, Flag.ofCluster?]
      cases Flag.ofLetter? c with
      | none => simp
      | some f => cases Flag.ofCluster? letters <;> simp

/-- The flags of a cluster stand in the order of their letters. -/
theorem ofCluster?_cons {c : Char} {letters : List Char} {flags : List Flag}
    (h : Flag.ofCluster? (c :: letters) = some flags) :
    ∃ f rest, flags = f :: rest ∧ Flag.ofLetter? c = some f ∧ Flag.ofCluster? letters = some rest := by
  rw [Flag.ofCluster?] at h
  obtain ⟨f, hf, h⟩ := Option.bind_eq_some_iff.mp h
  obtain ⟨rest, hrest, h⟩ := Option.bind_eq_some_iff.mp h
  exact ⟨f, rest, (Option.some.inj h).symm, hf, hrest⟩

/-- The flags of a cluster are those of its letters. -/
theorem mem_ofCluster? {letters : List Char} {flags : List Flag} (f : Flag)
    (h : Flag.ofCluster? letters = some flags) : f ∈ flags ↔ f.letter ∈ letters := by
  induction letters generalizing flags with
  | nil =>
      cases h
      simp
  | cons c letters ih =>
      obtain ⟨g, rest, rfl, hc, hrest⟩ := ofCluster?_cons h
      have hfirst : f = g ↔ f.letter = c := by
        rw [eq_comm (a := f.letter), ← ofLetter?_eq_some_iff, hc, Option.some.injEq, eq_comm]
      rw [List.mem_cons, List.mem_cons, ih hrest, hfirst]

/-- A long name is no cluster: its second dash is no letter of a flag. -/
theorem not_isCluster_longName (f : Flag) (letters : List Char) : ¬ IsCluster f.longName letters := by
  intro h
  have htext := h.text
  have hletters := h.letters
  cases f with
  | dryRun | verbose | help | version =>
      rw [← (List.cons.inj htext).2] at hletters
      exact absurd (hletters '-' List.mem_cons_self) (by decide)

theorem mem_longNames {a : String} :
    a ∈ ["--dry-run", "--verbose", "--help", "--version"] ↔ ∃ f : Flag, a = f.longName := by
  constructor
  · intro h
    simp only [List.mem_cons, List.not_mem_nil, or_false] at h
    rcases h with rfl | rfl | rfl | rfl
    · exact ⟨.dryRun, rfl⟩
    · exact ⟨.verbose, rfl⟩
    · exact ⟨.help, rfl⟩
    · exact ⟨.version, rfl⟩
  · rintro ⟨f, rfl⟩
    cases f <;> simp [Flag.longName]

/-- A long name is one flag. -/
theorem ofArgument?_longName (f : Flag) : Flag.ofArgument? f.longName = some [f] := by
  cases f <;> rfl

/-- Other arguments are no long names. -/
theorem find?_longName_eq_none {a : String} (h : ∀ f : Flag, a ≠ f.longName) :
    Flag.all.find? (·.longName == a) = none := by
  rw [List.find?_eq_none]
  intro f _ heq
  exact h f (beq_iff_eq.mp heq).symm

/-- A cluster is read letter by letter. -/
theorem ofArgument?_cluster {a : String} {letters : List Char} (h : IsCluster a letters) :
    Flag.ofArgument? a = Flag.ofCluster? letters := by
  have hlong : ∀ f : Flag, a ≠ f.longName := fun f heq => not_isCluster_longName f letters (heq ▸ h)
  obtain ⟨c, rest, rfl⟩ := List.exists_cons_of_ne_nil h.ne_nil
  rw [Flag.ofArgument?, find?_longName_eq_none hlong]
  simp only [h.text]

/-- **An argument stands for flags only if it is a flag.** -/
theorem ofArgument?_eq_some {a : String} {flags : List Flag} (h : Flag.ofArgument? a = some flags) :
    (∃ f, a = f.longName ∧ flags = [f])
      ∨ ∃ letters, IsCluster a letters ∧ Flag.ofCluster? letters = some flags := by
  by_cases hlong : ∃ f : Flag, a = f.longName
  · obtain ⟨f, rfl⟩ := hlong
    rw [ofArgument?_longName] at h
    exact Or.inl ⟨f, rfl, (Option.some.inj h).symm⟩
  · rw [not_exists] at hlong
    rw [Flag.ofArgument?, find?_longName_eq_none hlong] at h
    dsimp only at h
    split at h
    · next c rest htext =>
        have hletters : (Flag.ofCluster? (c :: rest)).isSome := Option.isSome_of_mem h
        exact Or.inr ⟨c :: rest, ⟨htext, List.cons_ne_nil c rest, ofCluster?_isSome_iff.mp hletters⟩, h⟩
    · cases h

/-- **What the program knows** are the flags. -/
theorem isKnown_iff {a : String} : isKnown a = true ↔ IsFlag a := by
  constructor
  · intro h
    obtain ⟨flags, hflags⟩ := Option.isSome_iff_exists.mp h
    rcases ofArgument?_eq_some hflags with ⟨f, hlong, -⟩ | ⟨letters, hcluster, -⟩
    · exact Or.inl (mem_longNames.mpr ⟨f, hlong⟩)
    · exact Or.inr ⟨letters, hcluster⟩
  · rintro (hlong | ⟨letters, hcluster⟩)
    · obtain ⟨f, rfl⟩ := mem_longNames.mp hlong
      rw [isKnown, ofArgument?_longName]
      rfl
    · rw [isKnown, ofArgument?_cluster hcluster]
      exact ofCluster?_isSome_iff.mpr hcluster.letters

theorem isKnown_eq_false_iff {a : String} : isKnown a = false ↔ ¬ IsFlag a := by
  rw [← isKnown_iff, Bool.not_eq_true]

/-- A flag is given by an argument with its name or with its letter. -/
theorem mem_flagsOf {arguments : List String} (f : Flag) :
    f ∈ flagsOf arguments ↔ ∃ a ∈ arguments.drop 1, AsksFor f.longName f.letter a := by
  rw [flagsOf, List.mem_flatMap]
  refine exists_congr fun a => and_congr_right fun _ => ?_
  constructor
  · -- a flag was read off the argument, which is a long name or a cluster then
    intro hmem
    cases hflags : Flag.ofArgument? a with
    | none =>
        rw [hflags] at hmem
        cases hmem
    | some flags =>
        rw [hflags, Option.getD_some] at hmem
        rcases ofArgument?_eq_some hflags with ⟨g, rfl, rfl⟩ | ⟨letters, hcluster, hread⟩
        · rw [List.mem_singleton.mp hmem]
          exact Or.inl rfl
        · exact Or.inr ⟨letters, hcluster, (mem_ofCluster? f hread).mp hmem⟩
  · -- each of the two is read as flags with this one among them
    rintro (rfl | ⟨letters, hcluster, hmem⟩)
    · rw [ofArgument?_longName]
      exact List.mem_singleton_self f
    · obtain ⟨flags, hread⟩ :=
        Option.isSome_iff_exists.mp (ofCluster?_isSome_iff.mpr hcluster.letters)
      rw [ofArgument?_cluster hcluster, hread]
      exact (mem_ofCluster? f hread).mpr hmem

/-! ## Parting

The arguments are gone through once. Each goes to one side, and the order is kept on both. -/

/-- The arguments are parted into flags and all else, each side in their order. -/
inductive Parts : List String → List String → List String → Prop
  | nil : Parts [] [] []
  | known {a : String} {arguments known unknown : List String} (ha : IsFlag a)
      (h : Parts arguments known unknown) : Parts (a :: arguments) (a :: known) unknown
  | unknown {a : String} {arguments known unknown : List String} (ha : ¬ IsFlag a)
      (h : Parts arguments known unknown) : Parts (a :: arguments) known (a :: unknown)

/-- The name of the program is known, whatever its text is, and what stands behind it is parted. -/
inductive Partitions : List String → List String → List String → Prop
  | uncalled : Partitions [] [] []
  | called {name : String} {arguments known unknown : List String}
      (h : Parts arguments known unknown) : Partitions (name :: arguments) (name :: known) unknown

/-- The second list is the first one with more arguments in it that are no flags. -/
inductive Pads : List String → List String → Prop
  | nil : Pads [] []
  | keep {a : String} {arguments padded : List String} (h : Pads arguments padded) :
      Pads (a :: arguments) (a :: padded)
  | insert {a : String} {arguments padded : List String} (ha : ¬ IsFlag a)
      (h : Pads arguments padded) : Pads arguments (a :: padded)

/-- Filtering parts them: what is known to one side, what is not to the other. -/
theorem parts_filter (arguments : List String) :
    Parts arguments (arguments.filter isKnown) (arguments.filter fun a => !isKnown a) := by
  induction arguments with
  | nil => exact .nil
  | cons a arguments ih =>
      cases hknown : isKnown a with
      | true =>
          rw [List.filter_cons_of_pos hknown, List.filter_cons_of_neg (by simp [hknown])]
          exact .known (isKnown_iff.mp hknown) ih
      | false =>
          rw [List.filter_cons_of_neg (by simp [hknown]), List.filter_cons_of_pos (by simp [hknown])]
          exact .unknown (isKnown_eq_false_iff.mp hknown) ih

/-- **The program parts its arguments** behind its own name. -/
theorem partitions_partitionArguments (arguments : List String) :
    Partitions arguments (partitionArguments arguments).1 (partitionArguments arguments).2 := by
  cases arguments with
  | nil => exact .uncalled
  | cons name arguments => exact .called (parts_filter arguments)

/-- Whatever is put between the arguments, the same flags are left. -/
theorem Pads.filter_isKnown {arguments padded : List String} (h : Pads arguments padded) :
    padded.filter isKnown = arguments.filter isKnown := by
  induction h with
  | nil => rfl
  | keep _ ih => rw [List.filter_cons, List.filter_cons, ih]
  | insert ha _ ih =>
      rw [List.filter_cons_of_neg (by rw [isKnown_eq_false_iff.mpr ha]; exact Bool.false_ne_true), ih]

/-! ## Parsing

Of a parser it is assumed how it reads a single flag. It is shown that it reads all known arguments
by this, one letter after the other. -/

/-- Why a parser stops. -/
inductive Stop where
  | refused (why : Refusal)
  /-- At an argument that is unknown or malformed. -/
  | unexpected (argument : String)
  deriving DecidableEq, Repr

/-- Takes flags into the settings, and leaves the arguments behind them to the parser. -/
def takeFlags (read : Settings → List String → Except Stop Settings) (s : Settings) (flags : List Flag)
    (rest : List String) : Except Stop Settings :=
  match applyFlags s flags with
  | .ok s => read s rest
  | .error why => .error (.refused why)

/-- What is assumed of a parser: it goes from left to right, and reads a cluster letter by letter. -/
structure ReadsFlags (read : Settings → List String → Except Stop Settings) : Prop where
  done (s : Settings) : read s [] = .ok s
  long (s : Settings) (f : Flag) (rest : List String) :
    read s (f.longName :: rest) = takeFlags read s [f] rest
  letter (s : Settings) {c : Char} {f : Flag} (hc : Flag.ofLetter? c = some f) (rest : List String) :
    read s (String.ofList ['-', c] :: rest) = takeFlags read s [f] rest
  cluster (s : Settings) {c : Char} {letters : List Char} (hne : letters ≠ [])
    (hletters : ∀ x ∈ c :: letters, x ∈ ['d', 'v', 'h', 'V']) (rest : List String) :
    read s (String.ofList ('-' :: c :: letters) :: rest)
      = read s (String.ofList ['-', c] :: String.ofList ('-' :: letters) :: rest)

/-- Flags are applied one by one. -/
theorem applyFlags_cons (s : Settings) (f : Flag) (flags : List Flag) :
    applyFlags s (f :: flags) = (applyFlags s [f]).bind (applyFlags · flags) := by
  cases f with
  | help | version => rfl
  | dryRun | verbose =>
      simp only [applyFlags]
      split <;> rfl

theorem applyFlags_append (s : Settings) (flags more : List Flag) :
    applyFlags s (flags ++ more) = (applyFlags s flags).bind (applyFlags · more) := by
  induction flags generalizing s with
  | nil => rfl
  | cons f flags ih =>
      rw [List.cons_append, applyFlags_cons, applyFlags_cons s f flags]
      cases applyFlags s [f] with
      | error why => rfl
      | ok s => exact ih s

section Parser

variable {read : Settings → List String → Except Stop Settings}

/-- The flag that is taken first is followed by the others of its cluster. -/
theorem takeFlags_cons (s : Settings) (f : Flag) (flags : List Flag) (rest : List String)
    {behind : List String} (h : ∀ s, read s behind = takeFlags read s flags rest) :
    takeFlags read s [f] behind = takeFlags read s (f :: flags) rest := by
  unfold takeFlags
  rw [applyFlags_cons s f flags]
  cases applyFlags s [f] with
  | error why => rfl
  | ok s => exact h s

/-- **A cluster is parsed** like its letters given one by one. -/
theorem read_cluster (hread : ReadsFlags read) {letters : List Char} {flags : List Flag}
    (hne : letters ≠ []) (h : Flag.ofCluster? letters = some flags) (s : Settings)
    (rest : List String) :
    read s (String.ofList ('-' :: letters) :: rest) = takeFlags read s flags rest := by
  -- the first letter leaves a shorter cluster, unless it is the only one
  induction letters generalizing flags s with
  | nil => exact absurd rfl hne
  | cons c letters ih =>
      have hletters := ofCluster?_isSome_iff.mp (Option.isSome_of_mem h)
      obtain ⟨f, more, rfl, hc, hmore⟩ := ofCluster?_cons h
      cases letters with
      | nil =>
          cases hmore
          exact hread.letter s hc rest
      | cons d letters =>
          have hbehind := fun s => ih (List.cons_ne_nil d letters) hmore s
          rw [hread.cluster s (List.cons_ne_nil d letters) hletters, hread.letter s hc]
          exact takeFlags_cons s f more rest hbehind

/-- **A flag is parsed** and leaves what stands behind it. -/
theorem read_argument (hread : ReadsFlags read) {a : String} {flags : List Flag}
    (h : Flag.ofArgument? a = some flags) (s : Settings) (rest : List String) :
    read s (a :: rest) = takeFlags read s flags rest := by
  rcases ofArgument?_eq_some h with ⟨f, rfl, rfl⟩ | ⟨letters, hcluster, hflags⟩
  · exact hread.long s f rest
  · have ha : a = String.ofList ('-' :: letters) := by rw [← hcluster.text, String.ofList_toList]
    rw [ha]
    exact read_cluster hread hcluster.ne_nil hflags s rest

/-- **Flags are parsed** one after the other. -/
theorem read_known (hread : ReadsFlags read) {known : List String} (h : ∀ a ∈ known, isKnown a = true)
    (s : Settings) :
    read s known
      = (applyFlags s (known.flatMap fun a => (Flag.ofArgument? a).getD [])).mapError .refused := by
  induction known generalizing s with
  | nil => exact hread.done s
  | cons a known ih =>
      obtain ⟨flags, hflags⟩ := Option.isSome_iff_exists.mp (h a List.mem_cons_self)
      have hrest := ih fun b hb => h b (List.mem_cons_of_mem a hb)
      rw [read_argument hread hflags, List.flatMap_cons, hflags, Option.getD_some, applyFlags_append,
        takeFlags]
      cases applyFlags s flags with
      | error why => rfl
      | ok s => exact hrest s

/-- The name of the program is no argument of its own. -/
def parseCall (read : Settings → List String → Except Stop Settings) (known : List String) :
    Except Stop Settings :=
  read ⟨false, false⟩ (known.drop 1)

/-- **The known arguments are parsed** to their flags, and refused only for these. -/
theorem parseCall_eq (hread : ReadsFlags read) (arguments : List String) :
    parseCall read (partitionArguments arguments).1
      = (parseFlags (partitionArguments arguments).1).mapError .refused := by
  refine read_known hread (fun a ha => ?_) ⟨false, false⟩
  cases arguments with
  | nil => cases ha
  | cons name arguments => exact (List.mem_filter.mp ha).2

end Parser

/-- Flags that do not ask for settings alone are refused. -/
theorem harmless_of_parseFlags {arguments : List String} {s : Settings}
    (h : parseFlags (partitionArguments arguments).1 = .ok s) : Harmless (flagsOf arguments) := by
  rcases flags_cases (flagsOf arguments) with hharmless | hasks | hrepeats
  · exact hharmless
  · obtain ⟨e, herror, -⟩ := parseFlags_asksForText hasks
    rw [herror] at h
    cases h
  · obtain ⟨e, herror, -⟩ := parseFlags_repeats hrepeats
    rw [herror] at h
    cases h

/-- What comes of the known arguments of a call. -/
structure Understands (read : Settings → List String → Except Stop Settings) (arguments : List String) :
    Prop where
  stops : ∀ stop, parseCall read (partitionArguments arguments).1 = .error stop →
    stop = .refused .help ∨ stop = .refused .version ∨ ∃ f, stop = .refused (.repeated f)
  dryRun : ∀ s, parseCall read (partitionArguments arguments).1 = .ok s →
    (s.dryRun = true ↔ ∃ a ∈ arguments.drop 1, AsksFor "--dry-run" 'd' a)
  verbose : ∀ s, parseCall read (partitionArguments arguments).1 = .ok s →
    (s.verbose = true ↔ ∃ a ∈ arguments.drop 1, AsksFor "--verbose" 'v' a)
  padded : ∀ name behind padded, arguments = name :: behind → Pads behind padded →
    parseCall read (partitionArguments (name :: padded)).1
      = parseCall read (partitionArguments arguments).1
  agrees : parseCall read (partitionArguments arguments).1
    = (parseFlags (partitionArguments arguments).1).mapError .refused

/-- Settings that come of flags are those that the flags ask for. -/
theorem settings_of_parseFlags {arguments : List String} {s : Settings}
    (h : parseFlags (partitionArguments arguments).1 = .ok s) : s = settingsOf (flagsOf arguments) := by
  rw [parseFlags_harmless (harmless_of_parseFlags h)] at h
  exact (Except.ok.inj h).symm

/-- What such a parser answers is what the program does. -/
theorem parseFlags_of_parseCall {read : Settings → List String → Except Stop Settings}
    (hread : ReadsFlags read) {arguments : List String} {s : Settings}
    (h : parseCall read (partitionArguments arguments).1 = .ok s) :
    parseFlags (partitionArguments arguments).1 = .ok s := by
  rw [parseCall_eq hread] at h
  cases hparse : parseFlags (partitionArguments arguments).1 with
  | error why =>
      rw [hparse] at h
      cases h
  | ok settings =>
      rw [hparse] at h
      rw [Except.ok.inj h]

/-- **Only flags are parsed.** The arguments are parted without loss, and every parser that reads flags
understands the known ones, whatever it does with others. -/
theorem partition_understood (arguments : List String) :
    Partitions arguments (partitionArguments arguments).1 (partitionArguments arguments).2
      ∧ ∀ read, ReadsFlags read → Understands read arguments := by
  refine ⟨partitions_partitionArguments arguments, fun read hread => ?_⟩
  constructor
  case stops =>
    intro stop hstop
    rw [parseCall_eq hread] at hstop
    -- the parser stops where reading the flags does, so its reasons are those of a refusal
    cases hparse : parseFlags (partitionArguments arguments).1 with
    | ok s =>
        rw [hparse] at hstop
        cases hstop
    | error why =>
        rw [hparse] at hstop
        rw [← Except.error.inj hstop]
        cases why with
        | help => exact Or.inl rfl
        | version => exact Or.inr (Or.inl rfl)
        | repeated f => exact Or.inr (Or.inr ⟨f, rfl⟩)
  case dryRun =>
    intro s hs
    rw [settings_of_parseFlags (parseFlags_of_parseCall hread hs), settingsOf, List.contains_iff_mem]
    exact mem_flagsOf .dryRun
  case verbose =>
    intro s hs
    rw [settings_of_parseFlags (parseFlags_of_parseCall hread hs), settingsOf, List.contains_iff_mem]
    exact mem_flagsOf .verbose
  -- what is put in between is on the other side of the partition
  case padded =>
    rintro name behind padded rfl hpads
    rw [partitionArguments, partitionArguments, hpads.filter_isKnown]
  case agrees => exact parseCall_eq hread arguments

/-! ## A parser

The assumption about a parser can be met. This one refuses whatever is no flag. -/

/-- Reads the letters of a cluster. A letter of no flag is unexpected. -/
def readLetters (argument : String) (s : Settings) : List Char → Except Stop Settings
  | [] => .ok s
  | c :: letters =>
    match Flag.ofLetter? c with
    | none => .error (.unexpected argument)
    | some f => ((applyFlags s [f]).mapError .refused).bind (readLetters argument · letters)

/-- An argument is a long name or a cluster, and is refused otherwise. -/
def readArgument (s : Settings) (argument : String) : Except Stop Settings :=
  match Flag.all.find? (·.longName == argument) with
  | some f => (applyFlags s [f]).mapError .refused
  | none =>
    match argument.toList with
    | '-' :: c :: letters => readLetters argument s (c :: letters)
    | _ => .error (.unexpected argument)

/-- Reads any arguments. No argument but a flag is declared, and behind two dashes there is no flag. -/
def readArguments (s : Settings) : List String → Except Stop Settings
  | [] => .ok s
  | a :: rest =>
    if a == "--" then rest.head?.elim (.ok s) fun b => .error (.unexpected b)
    else (readArgument s a).bind (readArguments · rest)

/-- Only two dashes alone end the flags. -/
theorem readArguments_cons {a : String} (h : a ≠ "--") (s : Settings) (rest : List String) :
    readArguments s (a :: rest) = (readArgument s a).bind (readArguments · rest) :=
  if_neg (by rw [beq_iff_eq]; exact h)

/-- Taking flags is applying them and going on. -/
theorem takeFlags_eq (read : Settings → List String → Except Stop Settings) (s : Settings)
    (flags : List Flag) (rest : List String) :
    takeFlags read s flags rest = ((applyFlags s flags).mapError .refused).bind (read · rest) := by
  unfold takeFlags
  cases applyFlags s flags <;> rfl

/-- Letters of flags behind a dash are a cluster. -/
theorem isCluster_ofList {letters : List Char} (hne : letters ≠ [])
    (h : ∀ c ∈ letters, c ∈ ['d', 'v', 'h', 'V']) : IsCluster (String.ofList ('-' :: letters)) letters :=
  ⟨String.toList_ofList, hne, h⟩

/-- Letters of flags are read as their flags, whatever argument they stand in. -/
theorem readLetters_eq {letters : List Char} {flags : List Flag}
    (h : Flag.ofCluster? letters = some flags) (argument : String) (s : Settings) :
    readLetters argument s letters = (applyFlags s flags).mapError .refused := by
  induction letters generalizing flags s with
  | nil =>
      cases h
      rfl
  | cons c letters ih =>
      obtain ⟨f, more, rfl, hc, hmore⟩ := ofCluster?_cons h
      rw [readLetters, hc, applyFlags_cons]
      dsimp only
      cases applyFlags s [f] with
      | error why => rfl
      | ok s => exact ih hmore s

/-- The parser reads a cluster letter by letter. -/
theorem readArguments_cluster {letters : List Char} {flags : List Flag} (hne : letters ≠ [])
    (h : Flag.ofCluster? letters = some flags) (s : Settings) (rest : List String) :
    readArguments s (String.ofList ('-' :: letters) :: rest) = takeFlags readArguments s flags rest := by
  have hletters := ofCluster?_isSome_iff.mp (Option.isSome_of_mem h)
  have hcluster := isCluster_ofList hne hletters
  have hdashes : String.ofList ('-' :: letters) ≠ "--" := by
    intro heq
    have htext := hcluster.text
    rw [heq] at htext
    rw [← (List.cons.inj htext).2] at hletters
    exact absurd (hletters '-' List.mem_cons_self) (by decide)
  have hlong : ∀ f : Flag, String.ofList ('-' :: letters) ≠ f.longName :=
    fun f heq => not_isCluster_longName f letters (heq ▸ hcluster)
  obtain ⟨c, letters, rfl⟩ := List.exists_cons_of_ne_nil hne
  rw [readArguments_cons hdashes, readArgument, find?_longName_eq_none hlong, takeFlags_eq]
  simp only [String.toList_ofList, readLetters_eq h]

theorem readsFlags_readArguments : ReadsFlags readArguments where
  done s := rfl
  long s f rest := by
    rw [takeFlags_eq]
    cases f <;> rfl
  letter s c f hc rest := by
    apply readArguments_cluster (List.cons_ne_nil c [])
    rw [Flag.ofCluster?, hc]
    rfl
  cluster s c letters hne hletters rest := by
    obtain ⟨flags, hflags⟩ := Option.isSome_iff_exists.mp (ofCluster?_isSome_iff.mpr hletters)
    obtain ⟨f, more, rfl, hc, hmore⟩ := ofCluster?_cons hflags
    have hfirst : Flag.ofCluster? [c] = some [f] := by
      rw [Flag.ofCluster?, hc]
      rfl
    rw [readArguments_cluster (List.cons_ne_nil c letters) hflags,
      readArguments_cluster (List.cons_ne_nil c []) hfirst]
    exact (takeFlags_cons s f more rest fun s => readArguments_cluster hne hmore s rest).symm

/-- Arguments of all kinds, with a name that is itself a flag. -/
def strayArguments : List String :=
  ["-V", "--bogus", "-v", "-", "--dry-run=x", "--", "-dx", "", "-d"]

/-- What is left of them without two that are no flags. -/
def fewerStrays : List String := ["-V", "-v", "-", "--dry-run=x", "-dx", "", "-d"]

/-- Strange arguments, some of which begin like flags, are kept from a parser that would refuse
them. -/
theorem partition_understood_stray :
    ReadsFlags readArguments
      ∧ readArguments ⟨false, false⟩ (strayArguments.drop 1) = .error (.unexpected "--bogus")
      ∧ Partitions strayArguments ["-V", "-v", "-d"] ["--bogus", "-", "--dry-run=x", "--", "-dx", ""]
      ∧ parseCall readArguments (partitionArguments strayArguments).1 = .ok ⟨true, true⟩
      ∧ (∃ a ∈ strayArguments.drop 1, AsksFor "--dry-run" 'd' a)
      ∧ Pads (fewerStrays.drop 1) (strayArguments.drop 1)
      ∧ parseCall readArguments (partitionArguments fewerStrays).1 = .ok ⟨true, true⟩ := by
  have hparts : partitionArguments strayArguments
      = (["-V", "-v", "-d"], ["--bogus", "-", "--dry-run=x", "--", "-dx", ""]) := by decide
  have hparse : parseCall readArguments (partitionArguments strayArguments).1 = .ok ⟨true, true⟩ := by
    decide
  have hpads : Pads (fewerStrays.drop 1) (strayArguments.drop 1) := by
    apply Pads.insert (isKnown_eq_false_iff.mp (by decide))
    apply Pads.keep
    apply Pads.keep
    apply Pads.keep
    apply Pads.insert (isKnown_eq_false_iff.mp (by decide))
    exact .keep (.keep (.keep .nil))
  obtain ⟨hpartitions, hunderstands⟩ := partition_understood strayArguments
  have hstray := hunderstands readArguments readsFlags_readArguments
  have hfewer := (partition_understood fewerStrays).2 readArguments readsFlags_readArguments
  rw [hparts] at hpartitions
  refine ⟨readsFlags_readArguments, by decide, hpartitions, hparse,
    (hstray.dryRun _ hparse).mp rfl, hpads, ?_⟩
  rw [← hfewer.padded "-V" _ _ rfl hpads]
  exact hparse

end DocCatalog.CommandLine
