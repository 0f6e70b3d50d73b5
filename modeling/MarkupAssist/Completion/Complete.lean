import MarkupAssist.Completion.Attributes
import MarkupAssist.Completion.Elements
import MarkupAssist.Completion.Values
import MarkupAssist.Cursor.Context

/-!
# Completion at a position

What is offered depends on what the position is on: the values of an attribute, the attributes of
an open tag, or, where the language of the document accepts tags, all elements.
-/

namespace MarkupAssist

/-- The characters after which an editor should ask for completion. -/
def triggerCharacters : List String :=
  [" ", ":", "<", "\"", "'", "/", "@", "("]

/-- What is offered at a position. -/
def Catalogue.complete (catalogue : Catalogue) (doc : Document) (position : Position)
    (settings : Settings) : List CompletionItem :=
  let position := doc.clamp position
  match doc.context position with
  | .attributeValue tag name => catalogue.completeValues doc position tag name
  | .attributeName tag => catalogue.completeAttributes doc position tag.text settings
  | .tagStart _ =>
    if doc.tagsAllowed position then catalogue.completeElements settings else []
  | .unknown => []

end MarkupAssist
