import DocCatalog.Number.Nearest
/-!
# Elapsed time

Seconds with two decimals. The time is taken as whole seconds plus a fraction in double precision,
and what is printed is the hundredth nearest to that.
-/

namespace DocCatalog.Report

/-- The hundredths of a second nearest to a time. -/
def hundredths (millis : Nat) : Nat :=
  let seconds := Number.Binary.addNat (millis / 1000) (Number.Binary.nearest (millis % 1000) 1000)
  Number.roundDiv (seconds.numerator * 100) seconds.denominator

/-- Two digits. -/
def twoDigits (n : Nat) : String := (if n < 10 then "0" else "") ++ toString n

def secondsText (millis : Nat) : String :=
  let h := hundredths millis
  toString (h / 100) ++ "." ++ twoDigits (h % 100)

end DocCatalog.Report
