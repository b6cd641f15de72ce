import DocCatalog.Diff.Edit
/-!
# Shortest scripts

Finds edits between two lists by searching from both ends at once, one deletion or insertion more at a
time, until the searches meet. What lies on both sides of the meeting point is compared in turn.

* `Frontier`: how far a search has come on each diagonal.
* `middle?`: where the searches from both ends meet.
* `script`: the edits between the lists.
-/

namespace DocCatalog.Diff

/-! ## Frontiers -/

/-- How many old items have been passed on the diagonal `k`, on which `k` more old items than new ones
have been passed. -/
structure Frontier where
  reach : Array Nat
  /-- The index of the diagonal 0. -/
  origin : Nat

namespace Frontier

/-- The start, on diagonals up to `size`. -/
def start (size : Nat) : Frontier := ⟨Array.replicate (2 * size + 3) 0, size + 1⟩

def get (f : Frontier) (k : Int) : Nat := f.reach.getD (k + f.origin).toNat 0

def set (f : Frontier) (k : Int) (x : Nat) : Frontier :=
  { f with reach := f.reach.setIfInBounds (k + f.origin).toNat x }

/-- The farthest point on the diagonal `k` after `d` steps, without the items that follow there. -/
def next (f : Frontier) (d k : Int) : Nat :=
  if k == -d || (k != d && f.get (k - 1) < f.get (k + 1)) then f.get (k + 1) else f.get (k - 1) + 1

end Frontier

/-- The diagonals `d`, `d - 2` and so on down to `-d`. -/
def diagonals (d : Nat) : List Int :=
  (List.range (d + 1)).map fun i : Nat => (d : Int) - 2 * (i : Int)

/-! ## The middle -/

/-- The two searches. -/
structure Search where
  forward : Frontier
  backward : Frontier

/-- One more step, along the given diagonals. Gives where the searches meet, or how far they have
come. -/
def stepAlong (advance : Search → Int → Search × Option (Nat × Nat)) (s : Search) :
    List Int → Search × Option (Nat × Nat)
  | [] => (s, none)
  | k :: ks =>
    match advance s k with
    | (s, some meeting) => (s, some meeting)
    | (s, none) => stepAlong advance s ks

variable {α : Type} [BEq α]

/-- One more step from the start, on the diagonal `k`. The searches can meet after it if the sizes
differ by an odd number. -/
def forwardStep (t : Texts α) (a b : Stretch) (d : Int) (s : Search) (k : Int) :
    Search × Option (Nat × Nat) :=
  let delta : Int := (a.size : Int) - b.size
  let x := s.forward.next d k
  let y := ((x : Int) - k).toNat
  let run :=
    if x < a.size && y < b.size then
      t.commonStart ⟨a.start + x, a.stop⟩ ⟨b.start + y, b.stop⟩
    else 0
  let s := { s with forward := s.forward.set k (x + run) }
  let meets := delta % 2 != 0 && (k - delta).natAbs ≤ d - 1
    && a.size ≤ x + run + s.backward.get (delta - k)
  (s, if meets then some (a.start + x, b.start + y) else none)

/-- One more step from the end, on the diagonal `k`. The searches can meet after it if the sizes differ
by an even number. -/
def backwardStep (t : Texts α) (a b : Stretch) (d : Int) (s : Search) (k : Int) :
    Search × Option (Nat × Nat) :=
  let delta : Int := (a.size : Int) - b.size
  let x := s.backward.next d k
  let y := ((x : Int) - k).toNat
  let run :=
    if x < a.size && y < b.size then
      t.commonEnd ⟨a.start, a.stop - x⟩ ⟨b.start, b.stop - y⟩
    else 0
  let s := { s with backward := s.backward.set k (x + run) }
  let meets := delta % 2 == 0 && (k - delta).natAbs ≤ d
    && a.size ≤ x + run + s.forward.get (delta - k)
  (s, if meets then some (a.stop - (x + run), b.stop - (y + run)) else none)

/-- Takes steps from both ends in turn, at most `rounds` of them. -/
def middleFrom (t : Texts α) (a b : Stretch) (s : Search) : (rounds d : Nat) → Option (Nat × Nat)
  | 0, _ => none
  | rounds + 1, d =>
    match stepAlong (forwardStep t a b d) s (diagonals d) with
    | (_, some meeting) => some meeting
    | (s, none) =>
      match stepAlong (backwardStep t a b d) s (diagonals d) with
      | (_, some meeting) => some meeting
      | (s, none) => middleFrom t a b s rounds (d + 1)

/-- Where the searches from both ends of two stretches meet. -/
def middle? (t : Texts α) (a b : Stretch) : Option (Nat × Nat) :=
  let rounds := (a.size + b.size + 1) / 2 + 1
  middleFrom t a b ⟨.start rounds, .start rounds⟩ rounds 0

/-! ## Scripts -/

/-- The edits between two stretches. What they have in common at both ends is kept. The fuel bounds
how often stretches are divided. -/
def scriptFrom (t : Texts α) : (fuel : Nat) → (a b : Stretch) → List Edit
  | 0, a, b => [.delete a.start a.size b.start, .insert a.start b.start b.size]
  | fuel + 1, a, b =>
    let head := t.commonStart a b
    let a' : Stretch := ⟨a.start + head, a.stop⟩
    let b' : Stretch := ⟨b.start + head, b.stop⟩
    let tail := t.commonEnd a' b'
    let a' : Stretch := ⟨a'.start, a'.stop - tail⟩
    let b' : Stretch := ⟨b'.start, b'.stop - tail⟩
    let between : List Edit :=
      match a'.isEmpty, b'.isEmpty with
      | true, true => []
      | false, true => [.delete a'.start a'.size b'.start]
      | true, false => [.insert a'.start b'.start b'.size]
      | false, false =>
        match middle? t a' b' with
        | some (i, j) =>
          scriptFrom t fuel ⟨a'.start, i⟩ ⟨b'.start, j⟩
            ++ scriptFrom t fuel ⟨i, a'.stop⟩ ⟨j, b'.stop⟩
        | none => [.delete a'.start a'.size b'.start, .insert a'.start b'.start b'.size]
    (if head == 0 then [] else [.keep a.start b.start head]) ++ between
      ++ (if tail == 0 then [] else [.keep a'.stop b'.stop tail])

/-- The edits between two lists. -/
def script (t : Texts α) : List Edit :=
  scriptFrom t (t.old.size + t.new.size + 1) ⟨0, t.old.size⟩ ⟨0, t.new.size⟩

end DocCatalog.Diff
