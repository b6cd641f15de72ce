/-!
# Unexpected failures

A computation may break off with a payload in place of a result. The payload is a text, or something
that cannot be shown.
-/

namespace DocCatalog.CommandLine

/-- What a computation broke off with. -/
inductive Payload where
  | text (message : String)
  | other
  deriving DecidableEq, Repr

def Payload.message : Payload → String
  | .text message => message
  | .other => "unknown panic"

/-- The result of a computation, or the message of the payload it broke off with. -/
def guarded {α : Type} (result : Except Payload α) : Except String α :=
  result.mapError Payload.message

end DocCatalog.CommandLine
