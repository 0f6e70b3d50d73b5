import MarkupAssist.Document
import MarkupAssist.Text.Split

/-!
# The tag opened before the cursor

`Document.openTag?` walks up from the cursor, at most `backwardLines` lines, to the nearest tag that
is opened and not yet closed. A line is judged by its shape alone:

* `openTags` lists the places of a line where a `<` is followed by a name and a blank (or, above the
  cursor line, by the end of the line);
* `endsAfterTag` recognises a line that closes a tag and goes on with at most words, blanks and the
  start of another tag;
* `endsAfterClose` recognises a line without `<` that closes a tag opened further up.

The last two stop the walk, so that the content of an element does not look like the inside of its
tag.
-/

namespace MarkupAssist

open Text

/-- A tag name with the number of characters before its `<` in the document. -/
structure TagToken where
  text : String
  offset : Nat
  deriving DecidableEq, Repr, Inhabited

namespace Cursor

/-- How many lines, the cursor line included, the walk looks at. -/
def backwardLines : Nat := 10

/-- The name of a tag opened at the start of `cs`: a `<`, a run of name characters and a blank. If
`atEnd` holds, the end of the text will do for the blank. -/
def openTagAt? (atEnd : Bool) : List Char → Option (List Char)
  | '<' :: rest =>
    let name := rest.takeWhile isNameChar
    let ended :=
      match rest.dropWhile isNameChar with
      | [] => atEnd
      | c :: _ => isBlank c
    if !name.isEmpty && ended then some name else none
  | _ => none

/-- The tags opened in a line, each with the number of characters before it. -/
def openTags (atEnd : Bool) : List Char → List (Nat × List Char)
  | [] => []
  | c :: cs =>
    let later := (openTags atEnd cs).map fun (i, name) => (i + 1, name)
    match openTagAt? atEnd (c :: cs) with
    | some name => (0, name) :: later
    | none => later

/-- Whether `cs` may follow a closed tag up to the cursor: words and blanks, then perhaps a `<` with
blanks, then a run of name characters. -/
def isTagTail (cs : List Char) : Bool :=
  match cs.dropWhile fun c => isBlank c || isWord c with
  | '<' :: rest => (rest.dropWhile isBlank).all isNameChar
  | rest => rest.all isNameChar

/-- Whether `cs` starts with the name of a tag. -/
def startsName : List Char → Bool
  | c :: _ => isNameChar c
  | [] => false

/-- Whether `cs`, the text after a `<`, is the rest of a tag up to its `>`, followed by nothing but
a tag tail. -/
def closesTag (cs : List Char) : Bool :=
  let named :=
    match cs with
    | '/' :: rest => startsName rest
    | _ => startsName cs
  named &&
    match cs.dropWhile fun c => c != '<' && c != '>' with
    | '>' :: rest => isTagTail rest
    | _ => false

/-- Whether a line ends after a closed tag. -/
def endsAfterTag : List Char → Bool
  | [] => false
  | c :: cs => (c == '<' && closesTag cs) || endsAfterTag cs

/-- Whether a line has no `<` and ends after a `>` that is not its first character, with no `/`
between that `>` and the end. -/
def endsAfterClose (cs : List Char) : Bool :=
  cs.all (· != '<') &&
    match splitLast? (· == '>') cs with
    | some (before, after) => !before.isEmpty && after.all (· != '/')
    | none => false

/-- Whether the text before the cursor on its line rules out that the cursor is inside a tag. -/
def stopsAtCursor (cs : List Char) : Bool :=
  endsAfterTag cs || endsAfterClose cs || cs.getLast? == some '<'

end Cursor

namespace Document

open Cursor

/-- The token of the last of a line's opened tags. -/
def tagToken? (doc : Document) (line : Nat) (tags : List (Nat × List Char)) : Option TagToken :=
  tags.getLast?.map fun (i, name) => ⟨String.ofList name, doc.offsetAt ⟨line, i⟩⟩

/-- The walk through the lines above the cursor, the nearest one first; the first of them has the
number `line`. -/
def openTagAbove? (doc : Document) (line : Nat) : List (List Char) → Option TagToken
  | [] => none
  | text :: above =>
    if endsAfterTag text then none
    else
      match doc.tagToken? line (openTags true text) with
      | some token => some token
      | none => doc.openTagAbove? (line - 1) above

/-- The lines above a line that the walk looks at, the nearest one first. -/
def linesAbove (doc : Document) (line : Nat) : List (List Char) :=
  (((doc.rawLines.take line).drop (line - (backwardLines - 1))).map dropReturn).reverse

/-- The nearest tag opened before the cursor and not closed. -/
def openTag? (doc : Document) (cursor : Position) : Option TagToken :=
  let cursor := doc.clamp cursor
  let before := doc.textBefore cursor
  if stopsAtCursor before then none
  else
    match doc.tagToken? cursor.line (openTags false before) with
    | some token => some token
    | none => doc.openTagAbove? (cursor.line - 1) (doc.linesAbove cursor.line)

end Document

end MarkupAssist
