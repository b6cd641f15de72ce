/-!
# Values of a settings file

* `Value`: strings, numbers, truth values, moments, arrays and tables.
* `Origin`: how a table came about, which decides how it may be extended.
* `lookup?`, `update`: the fields of a table, in the order in which they were written.
-/

namespace DocCatalog.Toml

/-- A number with a fraction or an exponent, as it is written. -/
inductive Fraction where
  /-- The number `digits * 10 ^ exponent`. -/
  | decimal (isNegative : Bool) (digits : Nat) (exponent : Int)
  | infinite (isNegative : Bool)
  | undefined
  deriving DecidableEq, Repr

/-- How a table came about. -/
inductive Origin where
  /-- By a header, or as the whole file. -/
  | header
  /-- As a table above one that has a header. -/
  | implied
  /-- By a dotted key. -/
  | dotted
  /-- Between braces. -/
  | inline
  deriving DecidableEq, Repr

inductive Value where
  | string (s : String)
  | integer (n : Int)
  | fraction (f : Fraction)
  | boolean (b : Bool)
  /-- A date, a time, or both. -/
  | moment (text : String)
  | array (items : List Value)
  /-- The tables of all headers in double brackets with one name. -/
  | tables (items : List Value)
  | table (origin : Origin) (fields : List (String × Value))
  deriving Repr

abbrev Fields := List (String × Value)

/-- The value of a field. -/
def lookup? (key : String) : Fields → Option Value
  | [] => none
  | (k, v) :: fields => if k == key then some v else lookup? key fields

/-- The fields with another value for one of them. A new field comes last. -/
def update (key : String) (v : Value) : Fields → Fields
  | [] => [(key, v)]
  | (k, w) :: fields => if k == key then (k, v) :: fields else (k, w) :: update key v fields

theorem lookup?_update_self (key : String) (v : Value) (fields : Fields) :
    lookup? key (update key v fields) = some v := by
  induction fields with
  | nil => simp [update, lookup?]
  | cons f fs ih =>
    simp only [update]
    split <;> simp_all [lookup?]

theorem lookup?_update_of_ne {key k : String} (h : k ≠ key) (v : Value) (fields : Fields) :
    lookup? k (update key v fields) = lookup? k fields := by
  induction fields with
  | nil => simp [update, lookup?, Ne.symm h]
  | cons f fs ih =>
    simp only [update]
    split <;> simp_all [lookup?]
    simp [Ne.symm h]

end DocCatalog.Toml
