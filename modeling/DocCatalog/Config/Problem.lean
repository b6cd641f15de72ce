import DocCatalog.Number.Double
import DocCatalog.Text.Shown
import DocCatalog.Toml.Value
/-!
# Problems of a settings file

* `Problem`: why a settings file is not accepted.
* `describe?`: a value as a message shows it. Some numbers cannot be shown at all.
-/

namespace DocCatalog.Config

/-- What a setting may be. -/
inductive Expected where
  | path
  | text
  | list
  | truth
  | sectionFields
  deriving DecidableEq, Repr

def Expected.phrase : Expected → String
  | .path => "path string"
  | .text => "a string"
  | .list => "a sequence"
  | .truth => "a boolean"
  | .sectionFields => "struct ExtractorSection"

inductive Problem where
  /-- The text is no settings file. -/
  | malformed
  | unknownField (name : String) (known : List String)
  | wrongType (found : String) (expected : Expected)
  /-- A section written as a list has not enough items. -/
  | missingItem
  /-- A number is out of all bounds. -/
  | overflow
  deriving DecidableEq, Repr

/-- What can be said about a problem without showing the file. -/
def Problem.message? : Problem → Option String
  | .unknownField name known =>
    some ("unknown field `" ++ name ++ "`, expected one of "
      ++ ", ".intercalate (known.map fun k => "`" ++ k ++ "`"))
  | .wrongType found expected =>
    some ("invalid type: " ++ found ++ ", expected " ++ expected.phrase)
  | _ => none

/-- A fraction in the digits that its double precision value needs. -/
def fractionText? : Toml.Fraction → Option String
  | .decimal isNegative digits exponent =>
    (Number.Double.ofDecimal? digits exponent).map fun d =>
      (if isNegative then "-" else "") ++ d.text
  | .infinite isNegative => some (if isNegative then "-inf" else "inf")
  | .undefined => some "NaN"

/-- A whole number, with a remark if it has more than 64 bits. -/
def integerText? (n : Int) : Option String :=
  let quoted := "integer `" ++ toString n
  if -0x8000000000000000 ≤ n && n < 0x10000000000000000 then some (quoted ++ "`")
  else if -0x80000000000000000000000000000000 ≤ n && n < 0x80000000000000000000000000000000 then
    some (quoted ++ "` as i128")
  else if 0 ≤ n && n < 0x100000000000000000000000000000000 then some (quoted ++ "` as u128")
  else none

/-- A value as a message shows it. -/
def describe? : Toml.Value → Option String
  | .string s => some ("string " ++ Text.shown s)
  | .integer n => integerText? n
  | .fraction f => (fractionText? f).map fun t => "floating point `" ++ t ++ "`"
  | .boolean b => some ("boolean `" ++ (if b then "true" else "false") ++ "`")
  | .array _ | .tables _ => some "sequence"
  | .moment _ | .table .. => some "map"

/-- The problem with a value of the wrong type. -/
def Problem.ofValue (v : Toml.Value) (expected : Expected) : Problem :=
  match describe? v with
  | some found => .wrongType found expected
  | none => .overflow

end DocCatalog.Config
