import MarkupAssist.Document
import MarkupAssist.Text.Units

/-!
# Positions of an editor

An editor counts the 16-bit units of a line, the library its characters. The two only differ on
lines with characters outside the basic plane, so a position is converted with respect to its line:

* `Document.toEditor` gives the units before a character;
* `Document.ofEditor` gives the characters that it takes to reach a unit, so that a unit inside a
  character counts as the end of that character.

The line itself never changes. Both conversions stop at the end of the line, and on a line that does
not exist they give its start.
-/

namespace MarkupAssist

/-- A place as an editor counts it: a line and a number of 16-bit units. -/
structure EditorPosition where
  line : Nat
  character : Nat
  deriving DecidableEq, Repr, Inhabited

/-- A range as an editor counts it. -/
structure EditorRange where
  start : EditorPosition
  stop : EditorPosition
  deriving DecidableEq, Repr, Inhabited

namespace Document

open Text

/-- The position of a place in an editor. -/
def ofEditor (doc : Document) (p : EditorPosition) : Position :=
  ⟨p.line, covering utf16Width p.character (doc.lineText p.line)⟩

/-- The place of a position in an editor. -/
def toEditor (doc : Document) (p : Position) : EditorPosition :=
  ⟨p.line, size utf16Width ((doc.lineText p.line).take p.character)⟩

/-- The place of a range in an editor. -/
def toEditorRange (doc : Document) (r : Range) : EditorRange :=
  ⟨doc.toEditor r.start, doc.toEditor r.stop⟩

end Document

end MarkupAssist
