import MarkupAssist.Document
import MarkupAssist.Text.Split

/-!
# The word under the cursor

The longest run of letters, numbers, hyphens and underscores that touches the cursor on its line.
-/

namespace MarkupAssist

open Text

/-- Whether `c` belongs to a word that can be pointed at. -/
def Cursor.isWordChar (c : Char) : Bool :=
  isAlphanumeric c || c == '-' || c == '_'

/-- The range of the word that touches the cursor. -/
def Document.wordRange? (doc : Document) (cursor : Position) : Option Range :=
  let cursor := doc.clamp cursor
  let before := (takeEndWhile Cursor.isWordChar (doc.textBefore cursor)).length
  let after := ((doc.textAfter cursor).takeWhile Cursor.isWordChar).length
  if before = 0 ∧ after = 0 then none
  else some (.onLine cursor.line (cursor.character - before) (cursor.character + after))

end MarkupAssist
