import MarkupAssist.Position
import MarkupAssist.Text.Units

/-!
# Documents

A document is a text with the identifier of its language. Its text is read in three ways: as one
list of characters, as lines, and as slices around a position.

* A line ends at a line feed. The text of a line leaves out the line feed and one carriage return
  in front of it (or at the end of the document).
* A position past the end of its line stands for the end of the line, and a position past the last
  line stands for the end of the document: no request is refused for its position.
* `offsetAt` and `positionAt` convert between positions and numbers of characters, `byteOffset`
  and `positionAtByte` between positions and numbers of UTF-8 bytes.

Lines are computed from the text by one recursion, `breakLines`; every slice is a `take` or a
`drop` of the text or of a line.
-/

namespace MarkupAssist

/-- An open text. -/
structure Document where
  chars : List Char
  language : String
  deriving DecidableEq, Repr, Inhabited

/-- The lines of a text, the first one and the others, without their line feeds. -/
def breakLines : List Char → List Char × List (List Char)
  | [] => ([], [])
  | c :: cs =>
    let (line, lines) := breakLines cs
    if c = '\n' then ([], line :: lines) else (c :: line, lines)

/-- A line without the carriage return at its end. -/
def dropReturn (line : List Char) : List Char :=
  if line.getLast? = some '\r' then line.dropLast else line

namespace Document

/-- The document with the text `text`. -/
def ofString (text : String) (language : String) : Document :=
  ⟨text.toList, language⟩

/-- The text of the document. -/
def text (doc : Document) : String :=
  String.ofList doc.chars

/-- The lines, each without its line feed but with its carriage return. -/
def rawLines (doc : Document) : List (List Char) :=
  let (line, lines) := breakLines doc.chars
  line :: lines

/-- The number of lines; an empty document has one. -/
def lineCount (doc : Document) : Nat :=
  doc.rawLines.length

/-- The text of a line, if the line exists. -/
def line? (doc : Document) (line : Nat) : Option (List Char) :=
  doc.rawLines[line]?.map dropReturn

/-- The text of a line; empty past the last line. -/
def lineText (doc : Document) (line : Nat) : List Char :=
  (doc.line? line).getD []

/-- The number of characters before a line. -/
def lineStart (doc : Document) (line : Nat) : Nat :=
  (doc.rawLines.take line).foldr (fun l n => l.length + 1 + n) 0

/-- The number of characters before a position. -/
def offsetAt (doc : Document) (p : Position) : Nat :=
  match doc.line? p.line with
  | some line => doc.lineStart p.line + min p.character line.length
  | none => doc.chars.length

/-- The position after the first `offset` characters. -/
def positionAt (doc : Document) (offset : Nat) : Position :=
  Position.origin.advanceOver (doc.chars.take offset)

/-- The number of bytes before a position. -/
def byteOffset (doc : Document) (p : Position) : Nat :=
  Text.size Text.utf8Width (doc.chars.take (doc.offsetAt p))

/-- The position after the first `byte` bytes. -/
def positionAtByte (doc : Document) (byte : Nat) : Position :=
  doc.positionAt (Text.fitting Text.utf8Width byte doc.chars)

/-- The position after the whole text. -/
def endPosition (doc : Document) : Position :=
  Position.origin.advanceOver doc.chars

/-- Move a position onto existing text. -/
def clamp (doc : Document) (p : Position) : Position :=
  match doc.line? p.line with
  | some line => ⟨p.line, min p.character line.length⟩
  | none => doc.endPosition

/-- The text of the position's line before it. -/
def textBefore (doc : Document) (p : Position) : List Char :=
  (doc.lineText p.line).take p.character

/-- The text of the position's line after it. -/
def textAfter (doc : Document) (p : Position) : List Char :=
  (doc.lineText p.line).drop p.character

/-- The text of the document before a position. -/
def textUntil (doc : Document) (p : Position) : List Char :=
  doc.chars.take (doc.offsetAt p)

/-- The text of the document from a position on. -/
def textFrom (doc : Document) (p : Position) : List Char :=
  doc.chars.drop (doc.offsetAt p)

/-- The text of a range; empty if the range ends before it starts. -/
def textInRange (doc : Document) (range : Range) : List Char :=
  (doc.chars.take (doc.offsetAt range.stop)).drop (doc.offsetAt range.start)

end Document

end MarkupAssist
