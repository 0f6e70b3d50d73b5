import MarkupAssist.Text.Printable

/-!
# Quoted text

A text between quotation marks, as it is shown to developers. What would not be visible is written
as an escape: quotation marks and backslashes, the common controls by a letter, and other characters
that do not print, or that only change the character before them, by their number.
-/

namespace MarkupAssist.Text

/-- The escape of a character by its number. -/
def numberEscape (c : Char) : List Char :=
  ['\\', 'u', '\x7b'] ++ Nat.toDigits 16 c.toNat ++ ['\x7d']

/-- A character inside quotation marks. -/
def quotedChar (c : Char) : List Char :=
  if c == '\x00' then ['\\', '0']
  else if c == '\t' then ['\\', 't']
  else if c == '\r' then ['\\', 'r']
  else if c == '\n' then ['\\', 'n']
  else if c == '"' || c == '\\' then ['\\', c]
  else if isExtender c || !isPrintable c then numberEscape c
  else [c]

/-- A text with its quotation marks. -/
def quoted (text : String) : String :=
  String.ofList ('"' :: text.toList.flatMap quotedChar ++ ['"'])

end MarkupAssist.Text
