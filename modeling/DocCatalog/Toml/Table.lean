import DocCatalog.Toml.Value
/-!
# Building tables

A table is written once. What may still be added to it later depends on how it came about.

* `insert`: adds a field below a dotted key. It may extend tables that dotted keys have made.
* `define`: sets what a header names, making the tables above it as needed.
* `Block.addTo`: adds a header with the fields below it.
-/

namespace DocCatalog.Toml

/-- A key, with the keys in front of its last dot. -/
structure Key where
  path : List String
  last : String
  deriving DecidableEq, Repr

/-! ## Dotted keys

A dotted key makes the tables on its way. It goes on in a table that is still open, and in none that
has been written out. -/

/-- Adds a field. A table that has been written in another way is not extended. -/
def insert (last : String) (v : Value) : (path : List String) → Fields → Option Fields
  | [], fields => if (lookup? last fields).isSome then none else some (update last v fields)
  | k :: path, fields =>
    match lookup? k fields with
    | none =>
      (insert last v path []).map fun inner => update k (.table .dotted inner) fields
    | some (.table origin inner) =>
      if origin == .dotted || (origin == .implied && !path.isEmpty) then
        (insert last v path inner).map fun inner => update k (.table origin inner) fields
      else none
    | some (.tables items) =>
      match path.isEmpty, items.getLast? with
      | false, some (.table origin inner) =>
        (insert last v path inner).map fun inner =>
          update k (.tables (items.dropLast ++ [.table origin inner])) fields
      | _, _ => none
    | some _ => none

/-- Adds fields in order. -/
def insertAll (fields : Fields) (entries : List (Key × Value)) : Option Fields :=
  entries.foldlM (fun fields (key, v) => insert key.last v key.path fields) fields

/-! ## Headers

A header may come to a table that was made only on the way to another one, but only once. -/

/-- Sets the value at the end of a path to what `f` makes of the one before. -/
def define (last : String) (f : Option Value → Option Value) :
    (path : List String) → Fields → Option Fields
  | [], fields => (f (lookup? last fields)).map fun v => update last v fields
  | k :: path, fields =>
    match lookup? k fields with
    | none =>
      (define last f path []).map fun inner => update k (.table .implied inner) fields
    | some (.table origin inner) =>
      if origin == .inline then none
      else (define last f path inner).map fun inner => update k (.table origin inner) fields
    | some (.tables items) =>
      match items.getLast? with
      | some (.table origin inner) =>
        (define last f path inner).map fun inner =>
          update k (.tables (items.dropLast ++ [.table origin inner])) fields
      | _ => none
    | some _ => none

/-- A header and the fields below it. -/
structure Block where
  /-- Whether the header stands in double brackets. -/
  isElement : Bool
  key : Key
  entries : List (Key × Value)

/-- The table of a block, or the array that ends with it. A table that is only implied so far keeps
what it holds. -/
def Block.value? (b : Block) (before : Option Value) : Option Value :=
  let filled (start : Fields) : Option Value := (insertAll start b.entries).map (.table .header)
  match b.isElement, before with
  | false, none => filled []
  | false, some (.table .implied inner) => filled inner
  | true, none => (filled []).map fun t => .tables [t]
  | true, some (.tables items) => (filled []).map fun t => .tables (items ++ [t])
  | _, _ => none

def Block.addTo (fields : Fields) (b : Block) : Option Fields :=
  define b.key.last b.value? b.key.path fields

end DocCatalog.Toml
