import MarkupAssist.Cursor.Context
import MarkupAssist.Cursor.Word
import MarkupAssist.Schema.Catalogue

/-!
# Documentation of elements and attributes

The definitions of a catalogue as Markdown, and `Catalogue.hover`, which shows the part of it that a
position asks for: the attribute if the tag around the position has it, else the whole element.
-/

namespace MarkupAssist

/-- Documentation for a position, with the word it is about. -/
structure HoverInfo where
  content : String
  range : Option Range := none
  deriving DecidableEq, Repr

namespace Documentation

/-- A text, or nothing if a condition fails. -/
def onlyIf (condition : Bool) (text : String) : String :=
  if condition then text else ""

/-- A paragraph, unless it is empty. -/
def paragraph (text : String) : String :=
  onlyIf (!text.isEmpty) (text ++ "\n\n")

/-- The item of an option in a list; the default is marked. -/
def optionItem (default : Option String) (entry : String × Option String) : String :=
  "* **" ++ entry.1 ++ "**" ++ (entry.2.map fun d => " : " ++ d).getD "" ++
    onlyIf (default == some entry.1) " (default)" ++ "\n"

/-- The list of an attribute's options. -/
def optionList (attr : Attribute) (default : Option String) : String :=
  String.join ((attr.options?.getD []).map (optionItem default))

/-- The section of a word of a composed value. -/
def slotSection (default : Option String) (entry : String × Attribute) : String :=
  "\n#### [" ++ entry.1 ++ "]\n\n" ++ optionList entry.2 (entry.2.default.or default)

/-- The values of an attribute. -/
def valueSection (attr : Attribute) : String :=
  match attr.slots? with
  | some slots =>
    "* **Syntax** : " ++ " ".intercalate (slots.map fun e => "[" ++ e.1 ++ "]") ++ "\n\n---\n" ++
      String.join (slots.map (slotSection attr.default))
  | none => optionList attr attr.default

/-- An attribute as Markdown. -/
def ofAttribute (name : String) (attr : Attribute) : String :=
  "#### " ++ name ++ " (" ++ attr.type.name ++ ")" ++ onlyIf attr.isRequired " (required)" ++
    "\n\n" ++ paragraph (attr.description.getD "") ++
    (attr.default.map fun d => "**Default:** `" ++ d ++ "`\n\n").getD "" ++ valueSection attr

/-- An element as Markdown, with all its attributes. -/
def ofElement (tag : String) (element : Element) : String :=
  "### " ++ tag ++ onlyIf (!element.title.isEmpty) (" (" ++ element.title ++ ")") ++ "\n\n" ++
    paragraph element.description ++
    onlyIf (!element.docLink.isEmpty) ("[Documentation](" ++ element.docLink ++ ")\n\n") ++
    onlyIf (!element.category.isEmpty) ("**Category:** " ++ element.category ++ "\n\n") ++
    String.join (element.attributes.map fun e => "---\n\n" ++ ofAttribute e.1 e.2 ++ "\n")

end Documentation

/-- The documentation for a position. -/
def Catalogue.hover (catalogue : Catalogue) (doc : Document) (position : Position) :
    Option HoverInfo := do
  let target := doc.hoverTarget position
  let tag ← target.tag
  let element ← catalogue.element? tag
  let found := do
    let name ← target.name
    return (name, ← element.attributes.get? name)
  let content :=
    match found with
    | some (name, attr) => Documentation.ofAttribute name attr
    | none => Documentation.ofElement tag element
  return ⟨content, doc.wordRange? position⟩

end MarkupAssist
