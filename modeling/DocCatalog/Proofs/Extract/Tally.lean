import DocCatalog.Proofs.Emit.Tells
import DocCatalog.Proofs.Extract.FirstOfName
import DocCatalog.Proofs.Extract.Isolation

/-!
# Counting repeated names

A record that is not kept is reported as a duplicate, and nothing else is. So the records of an extraction
and the duplicates that it reports are together as many as the records that were built.

* **`Diagnostic.saysDuplicate`**: how a duplicate is told among the diagnostics.
* **`warns_component`**, **`warns_command`**, **`warns_pattern`**: extractors report no errors.
* **`length_built`**: the records that were built are kept or reported.
-/

namespace DocCatalog

/-- Whether a diagnostic is the error that a name was met before. -/
def Diagnostic.saysDuplicate (d : Diagnostic) : Bool :=
  d.severity == .error && "duplicate ".toList.isPrefixOf d.message.toList

/-- A warning is no error about a name. -/
theorem Diagnostic.saysDuplicate_of_warn {d : Diagnostic} (h : d.severity = .warn) :
    d.saysDuplicate = false := by
  rw [saysDuplicate, h]
  rfl

namespace Extract

variable {ρ : Type}

/-! ## What is no duplicate

The files themselves give warnings only, or one error that begins otherwise. -/

/-- The problems that are met in a file keep no record from being built. -/
def Warns (ofFile : Outline → String → FileResult ρ) : Prop :=
  ∀ outline path, ∀ d ∈ (ofFile outline path).diagnostics, d.severity = .warn

/-- Components give warnings. -/
theorem warns_component (categoryRoot : Option String) : Warns (Component.ofFile categoryRoot) := by
  intro outline path d hd
  obtain ⟨declaration, -, hwarning⟩ := List.mem_filterMap.mp hd
  unfold Component.warning? at hwarning
  split at hwarning
  · cases hwarning
  · cases hwarning
    rfl

theorem warns_pattern : Warns Pattern.ofFile := by
  intro outline path d hd
  obtain ⟨declaration, -, hwarning⟩ := List.mem_filterMap.mp hd
  unfold Pattern.warning? at hwarning
  split at hwarning
  · cases hwarning
  · cases hwarning
    rfl

/-- All that is said about a command is a warning. -/
theorem severity_warningsOf {path : String} {s : Command.Segment} {doc : Doc.DocComment}
    {d : Diagnostic} (h : d ∈ Command.warningsOf path s doc) : d.severity = .warn := by
  unfold Command.warningsOf at h
  rcases List.mem_append.mp h with hflag | hrest
  · obtain ⟨call, -, rfl⟩ := List.mem_map.mp hflag
    rfl
  · split at hrest
    · obtain ⟨value, -, rfl⟩ := List.mem_map.mp hrest
      rfl
    · split at hrest
      · rw [List.mem_singleton.mp hrest]
        rfl
      · cases hrest

theorem warns_command : Warns Command.ofFile := by
  intro outline path d hd
  obtain ⟨part, hpart, hmem⟩ := List.mem_flatMap.mp hd
  obtain ⟨⟨s, doc⟩, -, rfl⟩ := List.mem_map.mp hpart
  simp only [Command.ofSegment] at hmem
  split at hmem
  · rw [List.mem_singleton.mp hmem]
    rfl
  · exact severity_warningsOf hmem

/-- Nothing that is said of a file alone is about a duplicate. -/
theorem saysDuplicate_ofSource {ofFile : Outline → String → FileResult ρ} (h : Warns ofFile)
    {s : SourceFile} {d : Diagnostic} (hd : d ∈ (ofSource ofFile s).diagnostics) :
    d.saysDuplicate = false := by
  have hfailure : ∀ d', s.Fails d' → d'.saysDuplicate = false := by
    intro d' hfails
    cases hfails with
    | unread hread =>
        have hapart : Emit.Apart "duplicate ".toList "failed to read file: ".toList := by decide
        exact hapart.isPrefixOf_append _
    | unparsed hread hparse =>
        have hapart : Emit.Apart "duplicate ".toList "syntax error near line ".toList := by decide
        exact hapart.isPrefixOf_append _
  rcases fails_or_ofSource_eq ofFile s with ⟨d', hfails⟩ | ⟨outline, hsource⟩
  · rw [hfails.ofSource ofFile] at hd
    rw [List.mem_singleton.mp hd]
    exact hfailure d' hfails
  · rw [hsource] at hd
    exact Diagnostic.saysDuplicate_of_warn (h outline s.path d hd)

/-! ## What is one

Each record that is not kept gives one error, and each record is kept or not. -/

variable [Catalogued ρ]

/-- The error about such a record is told by its beginning. -/
theorem saysDuplicate_repeatNotice (first again : Occurrence ρ) :
    (repeatNotice first again).saysDuplicate = true := by
  have hprefix : "duplicate ".toList <+: (repeatNotice first again).message.toList := by
    unfold repeatNotice
    simp only [String.toList_append, List.append_assoc]
    exact List.prefix_append _ _
  exact List.isPrefixOf_iff_prefix.mpr hprefix

/-- **There is an error for each record that is not kept**, and no other one says that. -/
theorem length_duplicates {results : List (String × FileResult ρ)}
    (h : ∀ r ∈ results, ∀ d ∈ r.2.diagnostics, d.saysDuplicate = false) :
    ((merge results).diagnostics.filter Diagnostic.saysDuplicate).length
      = (repeats [] (occurrences results)).length := by
  have hperm := (mergeFrom_diagnostics .nil 0 results).filter Diagnostic.saysDuplicate
  have hown : (results.flatMap fun r => r.2.diagnostics).filter Diagnostic.saysDuplicate = [] := by
    refine List.filter_eq_nil_iff.mpr fun d hd => ?_
    obtain ⟨r, hr, hmem⟩ := List.mem_flatMap.mp hd
    rw [h r hr d hmem]
    exact Bool.false_ne_true
  rw [List.filter_append, hown, List.nil_append, List.filter_map] at hperm
  rw [merge, hperm.length_eq, List.length_map, List.filter_eq_self.mpr]
  · rfl
  · rintro ⟨first, again⟩ -
    exact saysDuplicate_repeatNotice first again

/-- **Records are kept or reported**, one by one. -/
theorem length_merge (results : List (String × FileResult ρ))
    (h : ∀ r ∈ results, ∀ d ∈ r.2.diagnostics, d.saysDuplicate = false) :
    (results.flatMap fun r => r.2.records).length
      = ((merge results).diagnostics.filter Diagnostic.saysDuplicate).length
        + (merge results).records.length := by
  have hkept : (merge results).records = (firsts [] (occurrences results)).map (·.record) :=
    mergeFrom_records .nil 0 results
  rw [length_duplicates h, hkept, List.length_map, Nat.add_comm, length_firsts_add_length_repeats,
    ← map_record_occurrencesFrom 0 results, List.length_map]
  rfl

/-- The records that are built from the files. -/
def built (ofFile : Outline → String → FileResult ρ) (sources : List SourceFile) : List ρ :=
  sources.flatMap fun s => (ofSource ofFile s).records

/-- **No record is lost when files are merged**: it is kept, or reported as a duplicate. -/
theorem length_built {ofFile : Outline → String → FileResult ρ} (h : Warns ofFile)
    (sources : List SourceFile) :
    (built ofFile sources).length
      = ((mergeSources ofFile sources).diagnostics.filter Diagnostic.saysDuplicate).length
        + (mergeSources ofFile sources).records.length := by
  have hquiet : ∀ r ∈ sources.map (fun s => (s.path, ofSource ofFile s)),
      ∀ d ∈ r.2.diagnostics, d.saysDuplicate = false := by
    intro r hr d hd
    obtain ⟨s, -, rfl⟩ := List.mem_map.mp hr
    exact saysDuplicate_ofSource h hd
  have hmerge := length_merge _ hquiet
  rw [List.flatMap_map] at hmerge
  exact hmerge

end Extract

end DocCatalog
