/-!
# Nearest numbers

Rounding of quotients of natural numbers.

* `roundDiv`: the nearest natural number; of two equally near ones the even one.
* `Binary`: numbers with 53 binary digits, which are the values of double precision.
* `Binary.nearest`: the number of that kind that is nearest to a quotient.
-/

namespace DocCatalog.Number

/-- The natural number nearest to `n / d`. A half goes to the even neighbour. -/
def roundDiv (n d : Nat) : Nat :=
  let q := n / d
  let twice := 2 * (n % d)
  if twice < d then q
  else if d < twice then q + 1
  else if q % 2 == 0 then q else q + 1

/-- The number `mantissa * 2 ^ up / 2 ^ down`. -/
structure Binary where
  mantissa : Nat
  up : Nat
  down : Nat
  deriving DecidableEq, Repr

namespace Binary

def numerator (b : Binary) : Nat := b.mantissa * Nat.pow 2 b.up

def denominator (b : Binary) : Nat := Nat.pow 2 b.down

/-- Whether two numbers are the same. -/
def same (a b : Binary) : Bool := a.numerator * b.denominator == b.numerator * a.denominator

/-- The number with 53 binary digits that is nearest to `n / d`. -/
def nearest (n d : Nat) : Binary :=
  if n == 0 || d == 0 then ⟨0, 0, 0⟩
  else
    -- the quotient has its first digit at 2 ^ (n.log2 - d.log2) or one place lower
    let scaled (e : Int) : Nat × Nat := (n * Nat.pow 2 e.toNat, d * Nat.pow 2 (-e).toNat)
    let guess : Int := 52 + (d.log2 : Int) - (n.log2 : Int)
    let e := if (scaled guess).1 < Nat.pow 2 52 * (scaled guess).2 then guess + 1 else guess
    ⟨roundDiv (scaled e).1 (scaled e).2, (-e).toNat, e.toNat⟩

/-- The sum of a natural number and a number below one, rounded. -/
def addNat (k : Nat) (b : Binary) : Binary :=
  nearest (k * b.denominator + b.numerator) b.denominator

end Binary

end DocCatalog.Number
