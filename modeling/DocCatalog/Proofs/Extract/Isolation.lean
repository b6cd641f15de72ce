import DocCatalog.Extract.Command
import DocCatalog.Extract.Component
import DocCatalog.Extract.Merge
import DocCatalog.Extract.Pattern
import Mathlib.Data.List.Forall2

/-!
# Files of which nothing can be read

A file that cannot be read or does not parse brings one error and one summary into an extraction. It
brings no name, so the files behind it are merged as if it were not there.

* **`SourceFile.Fails`**: a file of which nothing can be read, with what is said of it.
* **`mergeSources`**: what a list of files gives.
* **`seenAfter`**, **`mergeFrom_append`**: files are merged with the names that the files before them
  have left.
* **`mergeSources_insert`**: a bad file among others.
* **`succeeded_mergeSources`**: no other file is said to have failed.
* **`extract_isolates`**: bad files are isolated, whatever is extracted.
-/

namespace DocCatalog.Extract

variable {ρ : Type}

/-! ## Bad files

A file fails if it cannot be read as text, or if the text has no tree. Either way there is one
error. -/

/-- The file cannot be read, or it does not parse; the diagnostic says so. -/
inductive SourceFile.Fails (s : SourceFile) : Diagnostic → Prop
  | unread {e : FileError} (h : s.content.readText = .error e) :
      Fails s ((Finding.unreadFile e.text).place s.path none)
  | unparsed {text : String} {line : Nat} (hread : s.content.readText = .ok text)
      (hparse : Outline.ofText (Script.Dialect.ofPath s.path) text = .error line) :
      Fails s ((Finding.unparsed line).place s.path (some line))

/-- What is said of a file that fails is an error. -/
theorem SourceFile.Fails.severity {s : SourceFile} {d : Diagnostic} (h : s.Fails d) :
    d.severity = .error := by
  cases h <;> rfl

theorem SourceFile.Fails.file {s : SourceFile} {d : Diagnostic} (h : s.Fails d) :
    d.file = s.path := by
  cases h <;> rfl

theorem SourceFile.Fails.ofSource {s : SourceFile} {d : Diagnostic} (h : s.Fails d)
    (ofFile : Outline → String → FileResult ρ) : ofSource ofFile s = .failed d := by
  unfold Extract.ofSource
  cases h with
  | unread hread => rw [hread]
  | unparsed hread hparse => simp only [hread, hparse]

/-- Of any other file an outline can be made, and the records come from that. -/
theorem fails_or_ofSource_eq (ofFile : Outline → String → FileResult ρ) (s : SourceFile) :
    (∃ d, s.Fails d) ∨ ∃ outline, ofSource ofFile s = ofFile outline s.path := by
  cases hread : s.content.readText with
  | error e => exact Or.inl ⟨_, .unread hread⟩
  | ok text =>
      cases hparse : Outline.ofText (Script.Dialect.ofPath s.path) text with
      | error line => exact Or.inl ⟨_, .unparsed hread hparse⟩
      | ok outline =>
          refine Or.inr ⟨outline, ?_⟩
          simp only [ofSource, hread, hparse]

/-! ## Merging in parts

What some files give together is put together from what they give one by one, each with the names
that were met before. -/

/-- One extraction behind the other. -/
def Extraction.append (a b : Extraction ρ) : Extraction ρ :=
  ⟨a.records ++ b.records, a.diagnostics ++ b.diagnostics, a.files ++ b.files⟩

instance : Append (Extraction ρ) := ⟨Extraction.append⟩

/-- What a bad file brings into an extraction. -/
def Extraction.ofFailure (path : String) (d : Diagnostic) : Extraction ρ :=
  ⟨[], [d], [⟨path, 0, false⟩]⟩

theorem Extraction.append_assoc (a b c : Extraction ρ) : a ++ b ++ c = a ++ (b ++ c) := by
  have happend : ∀ x y : Extraction ρ, x ++ y = Extraction.append x y := fun _ _ => rfl
  simp only [happend, Extraction.append, List.append_assoc]

theorem Extraction.nil_append (a : Extraction ρ) : (⟨[], [], []⟩ : Extraction ρ) ++ a = a := rfl

variable [Catalogued ρ]

/-- What one file gives, `seen` being the names that have been met before. -/
def mergeOne (seen : Seen) (path : String) (result : FileResult ρ) : Extraction ρ :=
  let k := keepFirst path seen result.records
  ⟨k.records, byLine (result.diagnostics ++ k.duplicates), [⟨path, k.records.length, result.succeeded⟩]⟩

/-- The names that have been met behind some files. -/
def seenAfter (seen : Seen) : List (String × FileResult ρ) → Seen
  | [] => seen
  | (path, result) :: rest => seenAfter (keepFirst path seen result.records).seen rest

/-- The first file, and then the others. -/
theorem mergeFrom_cons (seen : Seen) (path : String) (result : FileResult ρ)
    (rest : List (String × FileResult ρ)) :
    mergeFrom seen ((path, result) :: rest)
      = mergeOne seen path result
        ++ mergeFrom (keepFirst path seen result.records).seen rest := rfl

/-- **Files are merged in parts**: of the files before them the others know only the names. -/
theorem mergeFrom_append (seen : Seen) (front back : List (String × FileResult ρ)) :
    mergeFrom seen (front ++ back) = mergeFrom seen front ++ mergeFrom (seenAfter seen front) back := by
  -- along the front, with the names that each file leaves for the next
  induction front generalizing seen with
  | nil => exact (Extraction.nil_append _).symm
  | cons r front ih =>
      obtain ⟨path, result⟩ := r
      rw [List.cons_append, mergeFrom_cons, mergeFrom_cons, ih, Extraction.append_assoc]
      rfl

/-- A result without records leaves the names as they were. -/
theorem mergeFrom_failed (seen : Seen) (path : String) (d : Diagnostic)
    (rest : List (String × FileResult ρ)) :
    mergeFrom seen ((path, .failed d) :: rest)
      = Extraction.ofFailure path d ++ mergeFrom seen rest := by
  have hbyLine : byLine [d] = [d] := List.mergeSort_singleton d
  have hone : mergeOne seen path (FileResult.failed d : FileResult ρ)
      = Extraction.ofFailure path d := by
    show (⟨[], byLine [d], [⟨path, 0, false⟩]⟩ : Extraction ρ) = _
    rw [hbyLine]
    rfl
  have hseen : (keepFirst path seen (FileResult.failed d : FileResult ρ).records).seen = seen := rfl
  rw [mergeFrom_cons, hone, hseen]

/-! ## Files

A bad file leaves the names as they were, so that it can be taken out of the row. -/

/-- What a list of files gives, in the order of discovery. -/
def mergeSources (ofFile : Outline → String → FileResult ρ) (sources : List SourceFile) :
    Extraction ρ :=
  merge (sources.map fun s => (s.path, ofSource ofFile s))

/-- An extraction is that of the files that are discovered. -/
theorem extract_eq (ofFile : Outline → String → FileResult ρ) (t : Tree) (root : Place)
    (c : SourceConfig) :
    extract ofFile t root c = (discover t root c).map (mergeSources ofFile) := by
  rw [extract]
  cases discover t root c with
  | error e => rfl
  | ok sources => rfl

/-- **A bad file among others** adds what is said of it to the extraction of the others, between
what the files before it give and what the files behind it do. -/
theorem mergeSources_insert (ofFile : Outline → String → FileResult ρ) {s : SourceFile}
    {d : Diagnostic} (h : s.Fails d) (front back : List SourceFile) :
    ∃ rest, mergeSources ofFile (front ++ back) = mergeSources ofFile front ++ rest
      ∧ mergeSources ofFile (front ++ s :: back)
          = mergeSources ofFile front ++ Extraction.ofFailure s.path d ++ rest := by
  let read (s : SourceFile) : String × FileResult ρ := (s.path, ofSource ofFile s)
  let seen := seenAfter [] (front.map read)
  refine ⟨mergeFrom seen (back.map read), ?_, ?_⟩
  · show mergeFrom [] ((front ++ back).map read) = _
    rw [List.map_append, mergeFrom_append]
    rfl
  · have hbad : read s = (s.path, .failed d) := congrArg (s.path, ·) (h.ofSource ofFile)
    show mergeFrom [] ((front ++ s :: back).map read) = _
    rw [List.map_append, List.map_cons, hbad, mergeFrom_append, mergeFrom_failed,
      Extraction.append_assoc]
    rfl

/-- Each file is said to have succeeded if it has. -/
theorem succeeded_mergeFrom (seen : Seen) (results : List (String × FileResult ρ)) :
    List.Forall₂ (fun (f : FileSummary) r => f.path = r.1 ∧ f.succeeded = r.2.succeeded)
      (mergeFrom seen results).files results := by
  induction results generalizing seen with
  | nil => exact .nil
  | cons r results ih => exact .cons ⟨rfl, rfl⟩ (ih _)

/-- **Only bad files are said to have failed**, where nothing else makes an extractor fail. -/
theorem succeeded_mergeSources {ofFile : Outline → String → FileResult ρ}
    (hofFile : ∀ outline path, (ofFile outline path).succeeded = true) (sources : List SourceFile) :
    List.Forall₂ (fun (f : FileSummary) s => f.path = s.path ∧ (f.succeeded = false ↔ ∃ d, s.Fails d))
      (mergeSources ofFile sources).files sources := by
  have hresults := succeeded_mergeFrom [] (sources.map fun s => (s.path, ofSource ofFile s))
  rw [List.forall₂_map_right_iff] at hresults
  refine hresults.imp ?_
  rintro f s ⟨hpath, hsucceeded⟩
  refine ⟨hpath, ?_⟩
  rw [hsucceeded]
  constructor
  · intro hfailed
    rcases fails_or_ofSource_eq ofFile s with hfails | ⟨outline, hsource⟩
    · exact hfails
    · rw [hsource, hofFile] at hfailed
      cases hfailed
  · rintro ⟨d, hfails⟩
    rw [hfails.ofSource ofFile]
    rfl

/-! ## Extractors

None of the three extractors fails by itself: a file that has a tree is always read to the end. -/

/-- Bad files are isolated: an extraction with one of them is the one without it, but for an error
and a summary at its place, and no other file is said to have failed. -/
structure Isolates (ofFile : Outline → String → FileResult ρ) : Prop where
  /-- What is extracted is what the files that are discovered give. -/
  discovered : ∀ (t : Tree) (root : Place) (c : SourceConfig),
    extract ofFile t root c = (discover t root c).map (mergeSources ofFile)
  bad : ∀ (front back : List SourceFile) (s : SourceFile) (d : Diagnostic), s.Fails d →
    d.severity = .error ∧ d.file = s.path
      ∧ ∃ rest, mergeSources ofFile (front ++ back) = mergeSources ofFile front ++ rest
        ∧ mergeSources ofFile (front ++ s :: back)
            = mergeSources ofFile front ++ Extraction.ofFailure s.path d ++ rest
  others : ∀ sources : List SourceFile,
    List.Forall₂ (fun (f : FileSummary) s => f.path = s.path ∧ (f.succeeded = false ↔ ∃ d, s.Fails d))
      (mergeSources ofFile sources).files sources

/-- **Bad files are isolated** from whatever always succeeds. -/
theorem isolates_of_succeeds {ofFile : Outline → String → FileResult ρ}
    (h : ∀ outline path, (ofFile outline path).succeeded = true) : Isolates ofFile where
  discovered := extract_eq ofFile
  bad front back _ _ hfails :=
    ⟨hfails.severity, hfails.file, mergeSources_insert ofFile hfails front back⟩
  others := succeeded_mergeSources h

/-- **Bad files are isolated**, whatever is extracted. -/
theorem extract_isolates :
    (∀ categoryRoot, Isolates (Component.ofFile categoryRoot))
      ∧ Isolates Command.ofFile ∧ Isolates Pattern.ofFile :=
  ⟨fun _ => isolates_of_succeeds fun _ _ => rfl, isolates_of_succeeds fun _ _ => rfl,
    isolates_of_succeeds fun _ _ => rfl⟩

/-- Of a file that holds no text nothing is left but an error and a summary. -/
theorem extract_isolates_bytes :
    SourceFile.Fails ⟨"p/b.ts", .bytes [0xff]⟩
        ⟨"p/b.ts", none, .error, "failed to read file: stream did not contain valid UTF-8"⟩
      ∧ ∀ front back : List SourceFile, ∃ rest,
        mergeSources Pattern.ofFile (front ++ back) = mergeSources Pattern.ofFile front ++ rest
          ∧ mergeSources Pattern.ofFile (front ++ ⟨"p/b.ts", .bytes [0xff]⟩ :: back)
              = mergeSources Pattern.ofFile front
                ++ Extraction.ofFailure "p/b.ts" ⟨"p/b.ts", none, .error,
                    "failed to read file: stream did not contain valid UTF-8"⟩
                ++ rest := by
  have hfails : SourceFile.Fails ⟨"p/b.ts", .bytes [0xff]⟩
      ⟨"p/b.ts", none, .error, "failed to read file: stream did not contain valid UTF-8"⟩ :=
    .unread (e := .notText) rfl
  refine ⟨hfails, fun front back => ?_⟩
  exact (extract_isolates.2.2.bad front back _ _ hfails).2.2

end DocCatalog.Extract
