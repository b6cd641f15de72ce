import DocCatalog.Diff.Edit
/-!
# Sliding insertions

The same insertion can often stand at several places: if the items in front of it are those at its end,
it may as well stand before them. Every insertion is moved down as far as it goes, and edits of one
kind that meet on the way become one.

* `Cursor`: an edit with those before and behind it.
* `slideUp`, `slideDown`: move an edit as far as it goes.
* `settle`: moves all deletions and then all insertions.
-/

namespace DocCatalog.Diff

/-- An edit between those before it, the nearest first, and those behind it. -/
structure Cursor where
  before : List Edit
  here : Edit
  behind : List Edit
  deriving Repr

namespace Edit

/-- The edit with its start `n` items further down in both lists. -/
def shiftRight (n : Nat) : Edit → Edit
  | .keep old new count => .keep (old + n) (new + n) count
  | .delete old count new => .delete (old + n) count (new + n)
  | .insert old new count => .insert (old + n) (new + n) count

/-- The edit with its start `n` items further up in both lists. -/
def shiftLeft (n : Nat) : Edit → Edit
  | .keep old new count => .keep (old - n) (new - n) count
  | .delete old count new => .delete (old - n) count (new - n)
  | .insert old new count => .insert (old - n) (new - n) count

/-- The edit with a count that `f` makes of its own. -/
def mapCount (f : Nat → Nat) : Edit → Edit
  | .keep old new count => .keep old new (f count)
  | .delete old count new => .delete old (f count) new
  | .insert old new count => .insert old new (f count)

def isKeep : Edit → Bool
  | .keep .. => true
  | _ => false

def isDelete : Edit → Bool
  | .delete .. => true
  | _ => false

def isInsert : Edit → Bool
  | .insert .. => true
  | _ => false

end Edit

variable {α : Type} [BEq α]

/-! ## Up

An edit that comes to one of its own kind takes it in, and goes on as one. -/

/-- Kept items put back behind an edit, `n` of them. -/
def keepBehind (n : Nat) (before here : Edit) : List Edit → List Edit
  | .keep old new count :: rest => .keep (old - n) (new - n) (count + n) :: rest
  | rest => .keep (before.oldStretch.stop - n) (here.newStretch.stop - n) n :: rest

/-- Moves an edit up over kept items that are the same as its own last ones. -/
def slideUp (t : Texts α) : (fuel : Nat) → Cursor → Cursor
  | 0, c => c
  | fuel + 1, c =>
    match c.before with
    | [] => c
    | b :: before =>
      if b.isKeep then
        let n := t.commonEnd b.oldStretch c.here.newStretch
        if n == 0 then
          if b.count == 0 then slideUp t fuel { c with before } else c
        else
          let rest := b.mapCount (· - n)
          slideUp t fuel
            { before := if rest.count == 0 then before else rest :: before
              here := c.here.shiftLeft n
              behind := keepBehind n b c.here c.behind }
      else if b.isDelete == c.here.isDelete then
        slideUp t fuel { c with before, here := b.mapCount (· + c.here.count) }
      else slideUp t fuel { c with before, behind := b :: c.behind }

/-! ## Down -/

/-- Kept items put in front of an edit, `n` of them. -/
def keepBefore (n : Nat) (here behind : Edit) : List Edit → List Edit
  | .keep old new count :: rest => .keep old new (count + n) :: rest
  | rest => .keep behind.oldStretch.start here.newStretch.start n :: rest

/-- Moves an edit down over kept items that are the same as its own first ones. -/
def slideDown (t : Texts α) : (fuel : Nat) → Cursor → Cursor
  | 0, c => c
  | fuel + 1, c =>
    match c.behind with
    | [] => c
    | b :: behind =>
      if b.isKeep then
        let n := t.commonStart b.oldStretch c.here.newStretch
        if n == 0 then
          if b.count == 0 then slideDown t fuel { c with behind } else c
        else
          let rest := (b.mapCount (· - n)).shiftRight n
          slideDown t fuel
            { before := keepBefore n c.here b c.before
              here := c.here.shiftRight n
              behind := if rest.count == 0 then behind else rest :: behind }
      else if b.isDelete == c.here.isDelete then
        slideDown t fuel { c with behind, here := c.here.mapCount (· + b.count) }
      else slideDown t fuel { c with behind, before := b :: c.before }

/-! ## All edits -/

/-- Moves every edit that satisfies `p`, from the first on. -/
def settleFrom (t : Texts α) (p : Edit → Bool) (reach : Nat) :
    (fuel : Nat) → (before behind : List Edit) → List Edit
  | 0, before, behind => before.reverse ++ behind
  | _ + 1, before, [] => before.reverse
  | fuel + 1, before, e :: behind =>
    if p e then
      let c := slideDown t reach (slideUp t reach ⟨before, e, behind⟩)
      settleFrom t p reach fuel (c.here :: c.before) c.behind
    else settleFrom t p reach fuel (e :: before) behind

/-- Moves all deletions and then all insertions. -/
def settle (t : Texts α) (edits : List Edit) : List Edit :=
  let reach := edits.length + t.old.size + t.new.size + 1
  let pass (p : Edit → Bool) (es : List Edit) := settleFrom t p reach (reach * (reach + 1)) [] es
  pass Edit.isInsert (pass Edit.isDelete edits)

end DocCatalog.Diff
