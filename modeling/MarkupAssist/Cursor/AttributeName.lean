import MarkupAssist.Document
import MarkupAssist.Text.Split

/-!
# The attribute at the cursor

Two readings of the text on the cursor line:

* `Document.attributeAround?` is the name that the cursor stands on or in the value of: it starts
  after the last space or tab before the cursor and ends at an equals sign, which may stand before
  or behind the cursor;
* `Document.attributeBefore?` is the name whose quoted value is being typed, and also finds it when
  the value has several words already.
-/

namespace MarkupAssist

open Text

namespace Cursor

/-- Whether `c` separates attributes on a line. -/
def isGap (c : Char) : Bool :=
  c == ' ' || c == '\t'

/-- The text of a line from its last gap to an equals sign: to the last one before the cursor if
there is one behind the gap, else to the first one after the cursor. -/
def nameFragment? (before after : List Char) : Option (List Char) :=
  match splitLast? isGap before with
  | none => none
  | some (_, token) =>
    match splitLast? (· == '=') token with
    | some (fragment, _) => some fragment
    | none => (splitFirst? (· == '=') after).map fun (rest, _) => token ++ rest

/-- The first run of name characters that is followed by an equals sign and a quote. `run` holds
the current run, its last character first. -/
def assignedName? (run : List Char) : List Char → Option (List Char)
  | [] => none
  | c :: cs =>
    if isNameChar c then assignedName? (c :: run) cs
    else if c == '=' && !run.isEmpty && (cs.head?.any isQuote) then some run.reverse
    else assignedName? [] cs

/-- Whether a text has a complete quoted string: the same quote twice. -/
def hasQuoted (cs : List Char) : Bool :=
  2 ≤ cs.count '"' || 2 ≤ cs.count '\''

/-- The text after the last gap in front of the last quote; after the last gap if there is no
quote. -/
def assignmentFragment (before : List Char) : List Char :=
  let (head, tail) := (splitLast? isQuote before).getD (before, [])
  takeEndWhile (fun c => !isGap c) head ++ tail

end Cursor

namespace Document

open Cursor

/-- The attribute that the cursor stands on or in the value of. -/
def attributeAround? (doc : Document) (cursor : Position) : Option String :=
  match nameFragment? (doc.textBefore cursor) (doc.textAfter cursor) with
  | none => none
  | some fragment =>
    let name := trim fragment
    if fragment.contains '<' || name.isEmpty then none else some (String.ofList name)

/-- The attribute whose quoted value is being typed at the cursor. -/
def attributeBefore? (doc : Document) (cursor : Position) : Option String :=
  let fragment := assignmentFragment (doc.textBefore cursor)
  if hasQuoted fragment then none else (assignedName? [] fragment).map String.ofList

end Document

end MarkupAssist
