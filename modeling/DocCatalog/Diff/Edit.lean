/-!
# Edits

* `Edit`: a step from an old list to a new one, with the places where it stands in both.
* `commonStart`, `commonEnd`: how far two stretches of the lists are the same.
-/

namespace DocCatalog.Diff

/-- A step from an old list to a new one. -/
inductive Edit where
  /-- Items that both lists have. -/
  | keep (old new count : Nat)
  | delete (old count new : Nat)
  | insert (old new count : Nat)
  deriving DecidableEq, Repr

/-- Items of a list from `start` up to and without `stop`. -/
structure Stretch where
  start : Nat
  stop : Nat
  deriving DecidableEq, Repr

namespace Stretch

def size (s : Stretch) : Nat := s.stop - s.start

def isEmpty (s : Stretch) : Bool := s.stop ≤ s.start

end Stretch

/-- The two lists. -/
structure Texts (α : Type) where
  old : Array α
  new : Array α

namespace Texts

variable {α : Type} [BEq α]

/-- Whether an item of the old list is one of the new. -/
def same (t : Texts α) (i j : Nat) : Bool :=
  match t.old[i]?, t.new[j]? with
  | some a, some b => a == b
  | _, _ => false

/-- How many items from `i` and `j` on are the same, at most `most`. -/
def sameFrom (t : Texts α) (i j : Nat) : (most : Nat) → Nat
  | 0 => 0
  | most + 1 => if t.same i j then 1 + sameFrom t (i + 1) (j + 1) most else 0

/-- How many items before `i` and `j` are the same, at most `most`. -/
def sameUpTo (t : Texts α) (i j : Nat) : (most : Nat) → Nat
  | 0 => 0
  | most + 1 => if t.same (i - 1) (j - 1) then 1 + sameUpTo t (i - 1) (j - 1) most else 0

/-- How many items two stretches have in common at their starts. -/
def commonStart (t : Texts α) (a b : Stretch) : Nat :=
  t.sameFrom a.start b.start (min a.size b.size)

/-- How many items two stretches have in common at their ends. -/
def commonEnd (t : Texts α) (a b : Stretch) : Nat :=
  t.sameUpTo a.stop b.stop (min a.size b.size)

end Texts

namespace Edit

/-- The old items of an edit. -/
def oldStretch : Edit → Stretch
  | .keep old _ count | .delete old count _ => ⟨old, old + count⟩
  | .insert old _ _ => ⟨old, old⟩

/-- The new items of an edit. -/
def newStretch : Edit → Stretch
  | .keep _ new count | .insert _ new count => ⟨new, new + count⟩
  | .delete _ _ new => ⟨new, new⟩

def count : Edit → Nat
  | .keep _ _ n | .delete _ n _ | .insert _ _ n => n

end Edit

end DocCatalog.Diff
