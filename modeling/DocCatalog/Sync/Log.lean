import DocCatalog.Report.Phase
/-!
# Logs

What is told about a run while it goes on.

* `LogLine`: a message with its level.
* `LogLine.text`: the line as it is printed, without controls that a terminal would obey.
-/

namespace DocCatalog

inductive Level where
  | debug
  | info
  | warn
  deriving DecidableEq, Repr

/-- The names of levels have one width. -/
def Level.text : Level → String
  | .debug => "DEBUG"
  | .info => " INFO"
  | .warn => " WARN"

structure LogLine where
  level : Level
  message : String
  deriving DecidableEq, Repr

namespace LogLine

/-- A message about a phase. -/
def about (level : Level) (phase : Phase) (message : String) : LogLine :=
  ⟨level, "[" ++ phase.text ++ "] " ++ message⟩

/-- A character of a message. Controls that begin commands to a terminal are written as numbers. -/
def safeChar (c : Char) : List Char :=
  if ['\x07', '\x08', '\x0c', '\x1b', '\x7f'].contains c then
    let digits := Nat.toDigits 16 c.toNat
    ['\\', 'x'] ++ List.replicate (2 - digits.length) '0' ++ digits
  else if 0x80 ≤ c.toNat && c.toNat ≤ 0x9f then
    ['\\', 'u', '{'] ++ Nat.toDigits 16 c.toNat ++ ['}']
  else [c]

def text (l : LogLine) : String :=
  l.level.text ++ " " ++ String.ofList (l.message.toList.flatMap safeChar)

/-- Whether a line is printed. Only warnings are, unless more has been asked for. -/
def isShown (verbose : Bool) (l : LogLine) : Bool := verbose || l.level == .warn

end LogLine

end DocCatalog
