import DocCatalog.Files.Path
/-!
# Trees of files

* `Content`, `File`, `Entry`: what can be at a place.
* `Tree`: the entries by place. The top is always a directory.
* `get?`, `put`, `erase`, `removeAll`: a tree as a map from places.
* `fileAt?`: the file at a place.
* `files`: all files, directory by directory in the order of names.
-/

namespace DocCatalog

/-- The content of a file: a text, or bytes that are none. -/
inductive Content where
  | text (s : String)
  | bytes (b : List UInt8)
  deriving DecidableEq, Repr

/-- The content with the given bytes. -/
def Content.ofBytes (b : List UInt8) : Content :=
  match String.fromUTF8? (ByteArray.mk b.toArray) with
  | some s => .text s
  | none => .bytes b

structure File where
  content : Content
  /-- The permission bits. -/
  mode : Nat
  deriving DecidableEq, Repr

inductive Entry where
  | directory
  | file (f : File)
  deriving DecidableEq, Repr

/-- A tree holds at most one entry for each place below the top. -/
structure Tree where
  entries : List (Place × Entry) := []
  deriving Repr

namespace Tree

def get? (t : Tree) (p : Place) : Option Entry :=
  if p.isEmpty then some .directory else t.entries.lookup p

/-- Puts an entry in the place of what is there. -/
def put (t : Tree) (p : Place) (e : Entry) : Tree where
  entries := (p, e) :: t.entries.filter (·.1 != p)

/-- The file at a place, if there is one. -/
def fileAt? (t : Tree) (p : Place) : Option File :=
  match t.get? p with
  | some (.file f) => some f
  | _ => none

/-- Removes what is at a place. -/
def erase (t : Tree) (p : Place) : Tree where
  entries := t.entries.filter (·.1 != p)

/-- Removes a place with all that is below it. -/
def removeAll (t : Tree) (p : Place) : Tree where
  entries := t.entries.filter fun e => !p.isPrefixOf e.1

/-- The entries right below a place, by name. -/
def children (t : Tree) (p : Place) : List (String × Entry) :=
  t.entries.filterMap fun (q, e) =>
    match q.getLast? with
    | some name => if q.dropLast == p then some (name, e) else none
    | none => none

/-- The entries anywhere below a place, by the way that leads to them from there. -/
def descendants (t : Tree) (p : Place) : List (Place × Entry) :=
  t.entries.filterMap fun (q, e) =>
    if p.isPrefixOf q && p.length < q.length then some (q.drop p.length, e) else none

/-! ## Order

Files are listed as a walk through the tree meets them, so that what is in a directory stays
together. -/

/-- Names are in the order of their code points, and what is in a directory follows it. -/
def precedes : Place → Place → Bool
  | [], _ => true
  | _ :: _, [] => false
  | a :: p, b :: q =>
    match compare a b with
    | .lt => true
    | .gt => false
    | .eq => precedes p q

/-- All files below a place, by the way that leads to them from there. -/
def files (t : Tree) (p : Place) : List (Place × File) :=
  ((t.descendants p).filterMap fun (q, e) =>
    match e with
    | .file f => some (q, f)
    | .directory => none).mergeSort fun a b => precedes a.1 b.1

/-! ## Lemmas

A tree is a list of entries. The lemmas say that it is a map from places. -/

@[simp] theorem get?_nil (t : Tree) : t.get? [] = some .directory := rfl

theorem lookup_filter_ne {p q : Place} (h : q ≠ p) (es : List (Place × Entry)) :
    (es.filter (·.1 != p)).lookup q = es.lookup q := by
  induction es with
  | nil => rfl
  | cons e es ih =>
    obtain ⟨r, e⟩ := e
    by_cases hr : r = p
    · have hq : (q == p) = false := by simpa using h
      simp [List.lookup_cons, hr, ih, hq]
    · simp [List.lookup_cons, hr, ih]

/-- What has been put is found at its place. -/
theorem get?_put_self (t : Tree) (p : Place) (e : Entry) (h : p ≠ []) :
    (t.put p e).get? p = some e := by
  simp [get?, put, h]

/-- All other places keep what they hold. -/
theorem get?_put_of_ne (t : Tree) {p q : Place} (e : Entry) (h : q ≠ p) :
    (t.put p e).get? q = t.get? q := by
  have hb : (q == p) = false := by simpa using h
  simp [get?, put, List.lookup_cons, hb, lookup_filter_ne h]

end Tree

end DocCatalog
