import MarkupAssist.Completion.Item
import MarkupAssist.Cursor.ValueQuote
import MarkupAssist.Schema.Catalogue
import MarkupAssist.Text.Split

/-!
# Completing attribute values

The options of an attribute replace its whole value, from the opening quote to the closing one (or
to the cursor, if the value is not closed on the line). Of a composed value the options of one word
are offered: the word that the cursor is in, counted by the spaces typed before it; they replace
text only if the value is still blank.
-/

namespace MarkupAssist

open Text

namespace Completion

/-- The options of an attribute with their descriptions; a truth value has two even if it lists
none. -/
def optionsOf (attr : Attribute) : List (String × String) :=
  match attr.options? with
  | some options => options.map fun e => (e.1, e.2.getD "")
  | none => if attr.type == .boolean then [("true", ""), ("false", "")] else []

/-- The items of an attribute's options. -/
def valueItems (attr : Attribute) (range : Option Range) : List CompletionItem :=
  (optionsOf attr).map fun (value, description) =>
    { CompletionItem.ofLabel value .value with
      detail := some description
      replaceRange := range }

/-- The number of the word that comes next in a composed value. -/
def slotIndex (typed : List Char) : Nat :=
  (typed.dropWhile isBlank).count ' '

end Completion

open Completion

/-- The text of the value that the cursor is in, given its opening quote. -/
def Document.valueSpan (doc : Document) (position : Position) (opened : Cursor.OpenQuote) : Range :=
  let stop :=
    match splitFirst? (· == opened.quote) (doc.textAfter position) with
    | some (before, _) => position.character + before.length
    | none => position.character
  .onLine position.line (opened.index + 1) stop

/-- The values of an attribute of a tag that are offered at a position. -/
def Catalogue.completeValues (catalogue : Catalogue) (doc : Document) (position : Position)
    (tag name : String) : List CompletionItem :=
  match catalogue.attribute? tag name, doc.valueQuote? position with
  | some attr, some opened =>
    let span := doc.valueSpan position opened
    match attr.slots? with
    | none => valueItems attr (some span)
    | some slots =>
      let typed := doc.textInRange (.onLine position.line (opened.index + 1) position.character)
      match slots[slotIndex typed]? with
      | none => []
      | some (_, slot) =>
        valueItems slot (if (doc.textInRange span).all isBlank then some span else none)
  | _, _ => []

end MarkupAssist
