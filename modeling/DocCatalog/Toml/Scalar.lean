import DocCatalog.Toml.Value
/-!
# Bare values

Numbers, truth values, dates and times, which are written without quotes.

* `integer?`, `fraction?`, `moment?`: what a bare text stands for. No text is of two kinds.
* `scalar?`: the value of a bare text.
-/

namespace DocCatalog.Toml

/-! ## Numbers -/

/-- The digits of a number. An underscore may stand between two of them. -/
def digits? (isDigit : Char → Bool) : List Char → Option (List Char)
  | [] => none
  | [c] => if isDigit c then some [c] else none
  | c :: '_' :: r => if isDigit c then (digits? isDigit r).map (c :: ·) else none
  | c :: r => if isDigit c then (digits? isDigit r).map (c :: ·) else none

/-- The digits of a decimal number, which begins with zero only if it is zero. -/
def decimalDigits? (s : List Char) : Option (List Char) :=
  match digits? Char.isDigit s with
  | some ('0' :: _ :: _) => none
  | found => found

/-- The value of a digit, letters being digits from ten. -/
def digitValue (c : Char) : Nat :=
  if c.isDigit then c.toNat - '0'.toNat else c.toLower.toNat - 'a'.toNat + 10

def numberOf (base : Nat) (digits : List Char) : Nat :=
  digits.foldl (fun n c => base * n + digitValue c) 0

/-- Whether there is a minus sign, and what follows the sign. -/
def splitSign : List Char → Bool × List Char
  | '+' :: r => (false, r)
  | '-' :: r => (true, r)
  | s => (false, s)

def signed (isNegative : Bool) (n : Nat) : Int := if isNegative then -(n : Int) else n

/-- A whole number in one of four bases. Only decimal numbers have a sign. -/
def integer? : List Char → Option Int
  | '0' :: 'x' :: r =>
    (digits? (fun c => c.isDigit || ('a' ≤ c.toLower && c.toLower ≤ 'f')) r).map
      fun ds => (numberOf 16 ds : Int)
  | '0' :: 'o' :: r =>
    (digits? (fun c => '0' ≤ c && c ≤ '7') r).map fun ds => (numberOf 8 ds : Int)
  | '0' :: 'b' :: r =>
    (digits? (fun c => c == '0' || c == '1') r).map fun ds => (numberOf 2 ds : Int)
  | s =>
    let (isNegative, r) := splitSign s
    (decimalDigits? r).map fun ds => signed isNegative (numberOf 10 ds)

/-- A decimal number with a fraction, an exponent, or both. -/
def decimal? (isNegative : Bool) (s : List Char) : Option Fraction := do
  let isExponent (c : Char) : Bool := c == 'e' || c == 'E'
  let mantissa := s.takeWhile fun c => !isExponent c
  let whole := mantissa.takeWhile (· != '.')
  let wholeDigits ← decimalDigits? whole
  let fractionDigits ←
    match mantissa.drop whole.length with
    | [] => some []
    | _ :: places => digits? Char.isDigit places
  let exponent ←
    match s.drop mantissa.length with
    | [] => if fractionDigits.isEmpty then none else some 0
    | _ :: r =>
      let (isLow, r) := splitSign r
      (digits? Char.isDigit r).map fun ds => signed isLow (numberOf 10 ds)
  return .decimal isNegative (numberOf 10 (wholeDigits ++ fractionDigits))
    (exponent - fractionDigits.length)

def fraction? (s : List Char) : Option Fraction :=
  match splitSign s with
  | (isNegative, ['i', 'n', 'f']) => some (.infinite isNegative)
  | (_, ['n', 'a', 'n']) => some .undefined
  | (isNegative, r) => decimal? isNegative r

/-! ## Dates and times

A moment is checked for its form only, since no setting has one. -/

def twoDigits? (a b : Char) : Option Nat :=
  if a.isDigit && b.isDigit then some (numberOf 10 [a, b]) else none

def isLeapYear (year : Nat) : Bool := year % 4 == 0 && (year % 100 != 0 || year % 400 == 0)

def daysIn (year month : Nat) : Nat :=
  if month == 2 then (if isLeapYear year then 29 else 28)
  else if [4, 6, 9, 11].contains month then 30 else 31

/-- What follows a date. -/
def afterDate? : List Char → Option (List Char)
  | c :: d :: y :: z :: '-' :: m :: n :: '-' :: e :: f :: r => do
    let year := 100 * (← twoDigits? c d) + (← twoDigits? y z)
    let month ← twoDigits? m n
    let day ← twoDigits? e f
    if 1 ≤ month && month ≤ 12 && 1 ≤ day && day ≤ daysIn year month then some r else none
  | _ => none

/-- What follows the hours and minutes of a time. -/
def afterMinutes? : List Char → Option (List Char)
  | a :: b :: ':' :: c :: d :: r => do
    if (← twoDigits? a b) ≤ 23 && (← twoDigits? c d) ≤ 59 then some r else none
  | _ => none

/-- What follows the seconds of a time, which may be missing. The last minute of a day can have one
second more. -/
def afterSeconds? : List Char → Option (List Char)
  | ':' :: a :: b :: r => do
    if 60 < (← twoDigits? a b) then none
    else
      match r with
      | '.' :: r =>
        let places := r.takeWhile Char.isDigit
        if places.isEmpty then none else some (r.drop places.length)
      | r => some r
  | ':' :: _ => none
  | r => some r

def afterTime? (s : List Char) : Option (List Char) := (afterMinutes? s).bind afterSeconds?

/-- Whether a text is a distance from universal time, or empty. -/
def isOffset : List Char → Bool
  | [] => true
  | [c] => c == 'Z' || c == 'z'
  | c :: r => (c == '+' || c == '-') && afterMinutes? r == some []

/-- A date, a time, or a date with a time. Only the last can have an offset. -/
def isMoment (s : List Char) : Bool :=
  match afterDate? s with
  | some [] => true
  | some (c :: r) =>
    (c == 'T' || c == 't' || c == ' ') &&
      match afterTime? r with
      | some rest => isOffset rest
      | none => false
  | none => afterTime? s == some []

/-! ## Values -/

/-- The value of a bare text. -/
def scalar? (s : List Char) : Option Value :=
  if s == "true".toList then some (.boolean true)
  else if s == "false".toList then some (.boolean false)
  else if isMoment s then some (.moment (String.ofList s))
  else ((integer? s).map Value.integer) <|> ((fraction? s).map Value.fraction)

end DocCatalog.Toml
