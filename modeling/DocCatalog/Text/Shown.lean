import DocCatalog.Text.HiddenTable
import DocCatalog.Text.Word
/-!
# Texts in messages

* `isHidden`: characters that would not show in a message.
* `shown`: a text between quotes, with escapes for what does not show and for quotes and backslashes.
-/

namespace DocCatalog.Text

def isHidden (c : Char) : Bool :=
  if c.toNat < 128 then c.toNat < 0x20 || c.toNat == 0x7f else inRanges hiddenRanges c.toNat

/-- A character as it is shown between quotes. -/
def shownChar (c : Char) : List Char :=
  if c == '\x00' then ['\\', '0']
  else if c == '\t' then ['\\', 't']
  else if c == '\n' then ['\\', 'n']
  else if c == '\r' then ['\\', 'r']
  else if c == '\"' || c == '\\' then ['\\', c]
  else if isHidden c then ['\\', 'u', '{'] ++ Nat.toDigits 16 c.toNat ++ ['}']
  else [c]

def shown (s : String) : String := String.ofList ('\"' :: s.toList.flatMap shownChar ++ ['\"'])

end DocCatalog.Text
