import DocCatalog.Diff.Lines
import DocCatalog.Diff.Script
import DocCatalog.Diff.Slide
/-!
# Unified differences

Shows how a text has changed, with some unchanged lines around each change.

* `Change`: a stretch of lines that are kept, or of lines that others replace.
* `changes`: the changes from one text to another.
* `hunks`: the changes with the lines around them. Changes with few lines between them are shown
  together.
* `unified`: the difference as text.
-/

namespace DocCatalog.Diff

/-- Stretches of both texts that belong together. -/
structure Change where
  isKept : Bool
  old : Stretch
  new : Stretch
  deriving DecidableEq, Repr

/-! ## Changes -/

/-- A stretch with one that follows it. An empty stretch gives way to one that is not. -/
def Stretch.join (first next : Stretch) : Stretch :=
  if first.isEmpty && !next.isEmpty then next
  else ⟨first.start, first.start + (first.size + next.size)⟩

/-- A change with one that follows it and is kept or not as it is. -/
def Change.join (first next : Change) : Change :=
  ⟨first.isKept, first.old.join next.old, first.new.join next.new⟩

/-- The changes that edits make. Edits between two kept stretches are one change. -/
def changesOf : List Edit → List Change
  | [] => []
  | e :: es =>
    let first : Change := ⟨e.isKeep, e.oldStretch, e.newStretch⟩
    match changesOf es with
    | [] => [first]
    | next :: rest =>
      if next.isKept == first.isKept then first.join next :: rest else first :: next :: rest

/-- The changes from one list of lines to another. -/
def changes (t : Texts (List Char)) : List Change := changesOf (settle t (script t))

/-! ## Hunks

A hunk has kept lines around its changes, by which the place can be found. -/

/-- The first or the last `n` lines of a stretch. -/
def Stretch.first (s : Stretch) (n : Nat) : Stretch := ⟨s.start, s.start + min n s.size⟩

def Stretch.last (s : Stretch) (n : Nat) : Stretch := ⟨s.stop - min n s.size, s.stop⟩

def Change.first (c : Change) (n : Nat) : Change := ⟨c.isKept, c.old.first n, c.new.first n⟩

def Change.last (c : Change) (n : Nat) : Change := ⟨c.isKept, c.old.last n, c.new.last n⟩

/-- Cuts off what is too far before the first change and behind the last one. -/
def trimEnds (radius : Nat) (cs : List Change) : List Change :=
  let cs :=
    match cs with
    | c :: rest => if c.isKept then c.last radius :: rest else c :: rest
    | [] => []
  match cs.getLast? with
  | some c => if c.isKept then cs.dropLast ++ [c.first radius] else cs
  | none => cs

/-- Divides changes where many lines are kept. -/
def divide (radius : Nat) : List Change → List (List Change)
  | [] => [[]]
  | c :: rest =>
    match divide radius rest with
    | [] => [[c]]
    | group :: groups =>
      if c.isKept && 2 * radius < c.old.size then
        [c.first radius] :: (c.last radius :: group) :: groups
      else (c :: group) :: groups

/-- Groups of changes, each with up to `radius` kept lines around it. -/
def hunks (radius : Nat) (cs : List Change) : List (List Change) :=
  (divide radius (trimEnds radius cs)).filter fun group => group.any fun c => !c.isKept

/-! ## Text -/

/-- A stretch as a hunk names it: the number of its first line, and how many lines it has. -/
def Stretch.text (s : Stretch) : String :=
  if s.size == 1 then toString (s.start + 1)
  else toString (if s.size == 0 then s.start else s.start + 1) ++ "," ++ toString s.size

/-- The lines of a stretch with a mark in front. A line that nothing ends is ended with a remark. -/
def markedLines (mark : Char) (lines : Array (List Char)) (s : Stretch) : List Char :=
  (lines.extract s.start s.stop).toList.flatMap fun line =>
    mark :: line ++ if isEnded line then [] else "\n\\ No newline at end of file\n".toList

def changeText (t : Texts (List Char)) (c : Change) : List Char :=
  if c.isKept then markedLines ' ' t.old c.old
  else markedLines '-' t.old c.old ++ markedLines '+' t.new c.new

/-- From where the first change of a hunk starts to where the last one stops. -/
def hunkText (t : Texts (List Char)) (cs : List Change) : List Char :=
  match cs.head?, cs.getLast? with
  | some first, some last =>
    let old : Stretch := ⟨first.old.start, last.old.stop⟩
    let new : Stretch := ⟨first.new.start, last.new.stop⟩
    ("@@ -" ++ old.text ++ " +" ++ new.text ++ " @@\n").toList ++ cs.flatMap (changeText t)
  | _, _ => []

/-- The lines of two texts. -/
def textsOf (old new : String) : Texts (List Char) :=
  ⟨(lines old.toList).toArray, (lines new.toList).toArray⟩

/-- The difference between the texts of a file, with three lines around each change. -/
def unified (path old new : String) : String :=
  let t := textsOf old new
  match hunks 3 (changes t) with
  | [] => ""
  | hs =>
    "--- a/" ++ path ++ "\n+++ b/" ++ path ++ "\n" ++ String.ofList (hs.flatMap (hunkText t))

/-- How many lines are added and how many are removed. -/
def counts (old new : String) : Nat × Nat :=
  let changed := (changes (textsOf old new)).filter fun c => !c.isKept
  let total (sizes : List Nat) : Nat := sizes.foldr (· + ·) 0
  (total (changed.map (·.new.size)), total (changed.map (·.old.size)))

end DocCatalog.Diff
