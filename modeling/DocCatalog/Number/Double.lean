import DocCatalog.Number.Nearest
/-!
# Double precision

Decimal fractions in double precision, and back to the shortest decimal text.

* `Double.nearest?`: the double that is nearest to a quotient. There is none beyond the largest.
* `Double.ofDecimal?`: the double that is nearest to a decimal fraction.
* `Double.shortest`: the coarsest power of ten of which a multiple reads back as the double, and the
  multiple that is nearest to it.
* `Double.text`: that multiple, written with a decimal point and without an exponent.
-/

namespace DocCatalog.Number

/-- The number `mantissa * 2 ^ exponent`. -/
structure Double where
  mantissa : Nat
  exponent : Int
  deriving DecidableEq, Repr

namespace Double

/-- The least exponent. -/
def leastExponent : Int := -1074

/-- The double nearest to `n / d`, if `n / d` rounds to less than `2 ^ 1024`. -/
def nearest? (n d : Nat) : Option Double :=
  if n == 0 || d == 0 then some ⟨0, leastExponent⟩
  else
    let scaled (e : Int) : Nat × Nat := (n * Nat.pow 2 (-e).toNat, d * Nat.pow 2 e.toNat)
    let guess : Int := (n.log2 : Int) - (d.log2 : Int) - 52
    let fitted := if (scaled guess).1 < Nat.pow 2 52 * (scaled guess).2 then guess - 1 else guess
    let e := max fitted leastExponent
    let m := roundDiv (scaled e).1 (scaled e).2
    if 971 < e || (e == 971 && Nat.pow 2 53 ≤ m) then none else some ⟨m, e⟩

/-- The double nearest to `digits * 10 ^ e`. Far beyond the range nothing has to be computed. -/
def ofDecimal? (digits : Nat) (e : Int) : Option Double :=
  let size : Int := (Nat.toDigits 10 digits).length + e
  if digits == 0 || size < -400 then some ⟨0, leastExponent⟩
  else if 400 < size then none
  else nearest? (digits * Nat.pow 10 e.toNat) (Nat.pow 10 (-e).toNat)

/-! ## Shortest text -/

/-- Whether the numbers `point * 10 ^ p` and `d` are less than half a unit of `d` apart. At half a
unit the even of two doubles wins. Below a power of two the unit is half as large. -/
def readsBack (d : Double) (point : Nat) (p : Int) : Bool :=
  let unit : Int := d.exponent - 2
  let left : Nat := point * Nat.pow 10 p.toNat * Nat.pow 2 (-unit).toNat
  let right (k : Nat) : Nat := k * Nat.pow 2 unit.toNat * Nat.pow 10 (-p).toNat
  let below := if d.mantissa == Nat.pow 2 52 && leastExponent < d.exponent then 1 else 2
  let low := right (4 * d.mantissa - below)
  let high := right (4 * d.mantissa + 2)
  (low < left && left < high) || (d.mantissa % 2 == 0 && (left == low || left == high))

/-- The multiples of `10 ^ p` next to `d`, the nearer one first. -/
def neighbours (d : Double) (p : Int) : List Nat :=
  let n := d.mantissa * Nat.pow 2 d.exponent.toNat * Nat.pow 10 (-p).toNat
  let m := Nat.pow 2 (-d.exponent).toNat * Nat.pow 10 p.toNat
  let q := n / m
  if 2 * (n % m) < m then [q, q + 1] else [q + 1, q]

/-- The first hit on the grids of the powers `p`, `p - 1` and so on. -/
def shortestFrom (d : Double) : (grids : Nat) → (p : Int) → Nat × Int
  | 0, p => (0, p)
  | grids + 1, p =>
    match (neighbours d p).find? (readsBack d · p) with
    | some point => (point, p)
    | none => shortestFrom d grids (p - 1)

/-- A multiple `point` of a power `10 ^ p`. -/
def shortest (d : Double) : Nat × Int :=
  if d.mantissa == 0 then (0, 0) else shortestFrom d 660 310

/-- The shortest text that reads back, with a digit on both sides of a decimal point. -/
def text (d : Double) : String :=
  let (point, p) := d.shortest
  let digits := (Nat.toDigits 10 point) ++ List.replicate p.toNat '0'
  let places := (-p).toNat
  let padded := List.replicate (places + 1 - digits.length) '0' ++ digits
  let whole := padded.take (padded.length - places)
  let fraction := padded.drop (padded.length - places)
  String.ofList (whole ++ '.' :: if fraction.isEmpty then ['0'] else fraction)

end Double

end DocCatalog.Number
