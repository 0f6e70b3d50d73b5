import MarkupAssist.Document
import MarkupAssist.Markup.AttributeText
import MarkupAssist.Markup.Tag
import MarkupAssist.Schema.Catalogue

/-!
# Occurrences of known elements

The opening tags of known elements in a document, each with its attributes and the ranges of both.
The marks of a value binding (`v-bind:` and `:`) are no part of an attribute's name. If a name is
written several times in a tag, the last writing counts and stands in its own place
(`keepLast`).
-/

namespace MarkupAssist

open Text Markup

/-- An attribute of an occurrence. -/
structure AttributeOccurrence where
  /-- The name without the marks of a value binding. -/
  name : String
  /-- The whole text of the attribute. -/
  rawText : String
  /-- The value without its quotes or braces; `none` for a name alone. -/
  value : Option String
  range : Range
  deriving DecidableEq, Repr

/-- Whether the value is missing or blank. -/
def AttributeOccurrence.isBlank (a : AttributeOccurrence) : Bool :=
  a.value.all fun value => value.toList.all Text.isBlank

/-- The opening tag of a known element. -/
structure Occurrence where
  name : String
  /-- The text of the tag from `<` to `>`. -/
  rawText : String
  range : Range
  attributes : List AttributeOccurrence
  deriving DecidableEq, Repr

/-- The attribute with a given name. -/
def Occurrence.attribute? (o : Occurrence) (name : String) : Option AttributeOccurrence :=
  o.attributes.find? fun a => a.name == name

namespace Markup

/-- An attribute name without the marks of a value binding. -/
def dropValueBinding (name : List Char) : List Char :=
  (dropRepeated 'v' "-bind:".toList name).dropWhile (· == ':')

/-- The attributes in order, with only the last of those that have the same name. -/
def keepLast (attributes : List AttributeOccurrence) : List AttributeOccurrence :=
  attributes.foldl (fun kept a => kept.filter (·.name != a.name) ++ [a]) []

end Markup

namespace Document

/-- The range of the text from one number of characters to another. -/
def rangeBetween (doc : Document) (start stop : Nat) : Range :=
  ⟨doc.positionAt start, doc.positionAt stop⟩

/-- An attribute found in a body that starts behind `base` characters; `none` if its name consists
of the marks of a binding only. -/
def attributeOccurrence? (doc : Document) (base : Nat) (m : AttributeMatch) :
    Option AttributeOccurrence :=
  let name := dropValueBinding m.name
  if name.isEmpty then none
  else
    let start := base + m.offset
    some ⟨String.ofList name, String.ofList m.text, m.value.map String.ofList,
      doc.rangeBetween start (start + m.text.length)⟩

/-- A tag with its attributes. -/
def occurrence (doc : Document) (m : TagMatch) : Occurrence :=
  let base := m.offset + 1 + m.name.length
  { name := String.ofList m.name
    rawText := String.ofList m.text
    range := doc.rangeBetween m.offset (m.offset + m.text.length)
    attributes :=
      keepLast ((attributeMatches 0 m.body).filterMap (doc.attributeOccurrence? base)) }

/-- The occurrences of known elements, in order. -/
def occurrences (doc : Document) (catalogue : Catalogue) : List Occurrence :=
  ((tagMatches 0 doc.chars).filter fun m => catalogue.isKnown (String.ofList m.name)).map
    doc.occurrence

end Document

end MarkupAssist
