import MarkupAssist.Document
import MarkupAssist.Text.Split

/-!
# The tag around the cursor

`Document.enclosingTag?` reads the name of the tag whose angle brackets surround the cursor. The
text from the last `<` before the cursor to the first `>` after it is the fragment. If the fragment
has a blank, the name stands between the `<` and the blank; otherwise it is read from the closing
tag in the fragment if there is one, else from behind the `<`.
-/

namespace MarkupAssist

open Text

namespace Cursor

/-- Whether `c` separates a tag name from what follows. -/
def isSeparator (c : Char) : Bool :=
  c == ' ' || c == '\t' || c == '\r' || c == '\n'

/-- The text behind the first `</`. -/
def behindClosingMark? : List Char → Option (List Char)
  | [] => none
  | '<' :: '/' :: rest => some rest
  | _ :: rest => behindClosingMark? rest

/-- The text from `cs` up to its first `>`, that character included; empty if there is none. -/
def throughBracket (cs : List Char) : List Char :=
  match splitFirst? (· == '>') cs with
  | some (before, _) => before ++ ['>']
  | none => []

/-- The part of a fragment that holds the tag name, given the fragment behind its `<`. -/
def nameRegion (inner : List Char) : List Char :=
  if inner.any isSeparator then inner.takeWhile fun c => !isSeparator c
  else ((behindClosingMark? ('<' :: inner)).getD inner).takeWhile (· != '>')

/-- The tag name in a region: blanks and slashes in front of it are dropped, and it ends at a
bracket, a slash or a blank. -/
def regionName (region : List Char) : List Char :=
  ((trim region).dropWhile (· == '/')).takeWhile fun c =>
    !(c == '>' || c == '/' || c == '<' || isBlank c)

end Cursor

namespace Document

open Cursor

/-- The name of the tag whose brackets surround the cursor. -/
def enclosingTag? (doc : Document) (cursor : Position) : Option String :=
  let cursor := doc.clamp cursor
  match splitLast? (· == '<') (doc.textUntil cursor) with
  | none => none
  | some (_, fragment) =>
    let name := regionName (nameRegion (fragment.tail ++ throughBracket (doc.textFrom cursor)))
    if name.isEmpty then none else some (String.ofList name)

end Document

end MarkupAssist
