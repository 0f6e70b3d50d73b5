import MarkupAssist.Cursor.AttributeName
import MarkupAssist.Cursor.Bracket
import MarkupAssist.Cursor.OpenTag
import MarkupAssist.Cursor.Script
import MarkupAssist.Cursor.ValueQuote

/-!
# What the cursor is on

`Document.context` classifies a position for completion, from the most to the least specific: the
value of an attribute, the place of an attribute name in an open tag, the start of a tag. The text
around the cursor is usually incomplete, so every question has the answer "none", and a position
for which no question has another answer is `unknown`.

`Document.hoverTarget` names the tag and the attribute that documentation is shown for.
-/

namespace MarkupAssist

open Text

/-- What a position is on. -/
inductive CursorContext where
  /-- In the quoted value of an attribute of a tag. -/
  | attributeValue (tag name : String)
  /-- In an open tag, where an attribute name can stand. -/
  | attributeName (tag : TagToken)
  /-- Behind a `<` and the part of a tag name typed so far. -/
  | tagStart (typed : String)
  | unknown
  deriving DecidableEq, Repr, Inhabited

/-- The tag and the attribute that documentation is asked for. -/
structure HoverTarget where
  tag : Option String
  name : Option String
  deriving DecidableEq, Repr

/-- The part of a tag name between the last `<` and the cursor. -/
def Cursor.typedTag? (before : List Char) : Option (List Char) :=
  match splitLast? (· == '<') before with
  | some (_, _ :: name) => if name.all isNameChar then some name else none
  | _ => none

/-- An attribute name without the marks of a binding. -/
def Cursor.dropBinding (name : List Char) : List Char :=
  (dropRepeated 'v' "-bind:".toList name).dropWhile fun c => c == ':' || c == '@'

namespace Document

open Cursor

/-- The attribute value that the cursor is in, by tag and attribute name. -/
def valueContext? (doc : Document) (cursor : Position) : Option (String × String) :=
  match doc.valueQuote? cursor with
  | none => none
  | some _ => do
    let tag ← doc.enclosingTag? cursor
    let name ← (doc.attributeBefore? cursor).or (doc.attributeAround? cursor)
    return (tag, name)

/-- What a position is on. -/
def context (doc : Document) (cursor : Position) : CursorContext :=
  let cursor := doc.clamp cursor
  match doc.valueContext? cursor with
  | some (tag, name) => .attributeValue tag name
  | none =>
    match doc.openTag? cursor with
    | some tag => .attributeName tag
    | none =>
      match typedTag? (doc.textBefore cursor) with
      | some typed => .tagStart (String.ofList typed)
      | none => .unknown

/-- What documentation is asked for at a position. -/
def hoverTarget (doc : Document) (cursor : Position) : HoverTarget :=
  let cursor := doc.clamp cursor
  { tag := doc.enclosingTag? cursor
    name := (doc.attributeAround? cursor).map fun name => String.ofList (dropBinding name.toList) }

/-- Whether the language of the document accepts tags at a position. -/
def tagsAllowed (doc : Document) (cursor : Position) : Bool :=
  if doc.language = "vue" then !doc.inScript cursor
  else doc.language = "html" || doc.language = "typescript" || doc.language = "mdx"

end Document

end MarkupAssist
