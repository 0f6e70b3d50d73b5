import MarkupAssist.Completion.Item
import MarkupAssist.Completion.Skeleton

/-!
# Completing tags

Every known element is offered as a skeleton, in catalogue order: the sort key of an element starts
with its place in the catalogue, padded to four digits.
-/

namespace MarkupAssist

/-- A number with at least four digits. -/
def fourDigits (n : Nat) : String :=
  let digits := Nat.toDigits 10 n
  String.ofList (List.replicate (4 - digits.length) '0' ++ digits)

namespace Catalogue

/-- The item of an element at a place of the catalogue. -/
def elementItem (catalogue : Catalogue) (settings : Settings) (entry : (String × Element) × Nat) :
    CompletionItem :=
  let ((tag, element), index) := entry
  { label := tag
    kind := .element
    insertText := catalogue.skeleton tag settings
    isSnippet := true
    detail := some element.description
    documentation := some ("[Docs](" ++ element.docLink ++ ")")
    sortText := CompletionItem.sortPrefix ++ fourDigits index ++ tag }

/-- The items of all elements. -/
def completeElements (catalogue : Catalogue) (settings : Settings) : List CompletionItem :=
  catalogue.elements.zipIdx.map (catalogue.elementItem settings)

end Catalogue

end MarkupAssist
