import MarkupAssist.Document
import MarkupAssist.Text.Word

/-!
# The open quote before the cursor

An attribute value is open at the cursor if a quote after an equals sign has not been closed on the
cursor line. `QuoteScan` is the automaton that reads the line: it remembers the open quote and the
last character that was no blank.
-/

namespace MarkupAssist

open Text

namespace Cursor

/-- A quotation mark on a line, by its place and its kind. -/
structure OpenQuote where
  index : Nat
  quote : Char
  deriving DecidableEq, Repr

/-- What has been read of a line. -/
structure QuoteScan where
  /-- The number of characters read. -/
  index : Nat := 0
  /-- The quote whose value is open. -/
  opened : Option OpenQuote := none
  /-- The last character that was no blank. -/
  previous : Option Char := none

/-- Read one character. A quote opens a value only after an equals sign, and the same quote closes
it. -/
def QuoteScan.step (s : QuoteScan) (c : Char) : QuoteScan :=
  { index := s.index + 1
    opened :=
      match s.opened with
      | some q => if c == q.quote then none else some q
      | none => if isQuote c && s.previous == some '=' then some ⟨s.index, c⟩ else none
    previous := if isBlank c then s.previous else some c }

/-- The quote that is open at the end of a line. -/
def openQuote? (cs : List Char) : Option OpenQuote :=
  (cs.foldl QuoteScan.step {}).opened

end Cursor

/-- The quote of the value that the cursor is in. -/
def Document.valueQuote? (doc : Document) (cursor : Position) : Option Cursor.OpenQuote :=
  Cursor.openQuote? (doc.textBefore cursor)

end MarkupAssist
