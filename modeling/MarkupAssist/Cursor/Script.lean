import MarkupAssist.Document
import MarkupAssist.Text.Split

/-!
# Script blocks

Whether a line lies in a script block, decided by the nearest line at or above it that closes or
opens one. A line opens a block if it holds nothing but an opening script tag.
-/

namespace MarkupAssist

open Text

namespace Cursor

/-- Whether a line is an opening script tag with blanks around it. -/
def opensScript (line : List Char) : Bool :=
  match "<script".toList.isPrefixOf? (line.dropWhile isBlank) with
  | some rest => (dropEndWhile isBlank rest).getLast? == some '>'
  | none => false

/-- Whether a closing script tag starts at the start of `cs`. -/
def startsScriptClose (cs : List Char) : Bool :=
  match "</script".toList.isPrefixOf? cs with
  | some rest => (rest.dropWhile isBlank).head? == some '>'
  | none => false

/-- Whether a line has a closing script tag. -/
def closesScript : List Char → Bool
  | [] => false
  | c :: cs => startsScriptClose (c :: cs) || closesScript cs

/-- Whether lines, the nearest one first, end inside a script block. -/
def endsInScript : List (List Char) → Bool
  | [] => false
  | line :: above =>
    if closesScript line then false else if opensScript line then true else endsInScript above

end Cursor

/-- Whether a position lies in a script block. -/
def Document.inScript (doc : Document) (cursor : Position) : Bool :=
  Cursor.endsInScript ((doc.rawLines.take (cursor.line + 1)).map dropReturn).reverse

end MarkupAssist
