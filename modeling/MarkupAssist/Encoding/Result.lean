import MarkupAssist.Completion.Item
import MarkupAssist.Cursor.Context
import MarkupAssist.Diagnostic
import MarkupAssist.Documentation
import MarkupAssist.Json.Decode

/-!
# Results as JSON

The JSON form of positions, contexts, completion items, documentation and findings. A part that is
not there is left out. Positions, items, documentation and findings can also be read back.
-/

namespace MarkupAssist

/-- The numbers that lines and characters are taken from. -/
def Position.bound : Nat := 0x100000000

/-- A position as JSON. -/
def Position.encode (p : Position) : Json :=
  .record [("line", .ofNat p.line), ("character", .ofNat p.character)]

/-- A position from JSON. -/
def Position.decode? (value : Json) : Option Position := do
  let [line, character] ← value.fields? [["line"], ["character"]] | none
  return ⟨← Json.required? (Json.natBelow? bound) line,
    ← Json.required? (Json.natBelow? bound) character⟩

/-- A range as JSON. -/
def Range.encode (r : Range) : Json :=
  .record [("start", r.start.encode), ("end", r.stop.encode)]

/-- A range from JSON. -/
def Range.decode? (value : Json) : Option Range := do
  let [start, stop] ← value.fields? [["start"], ["end"]] | none
  return ⟨← Json.required? Position.decode? start, ← Json.required? Position.decode? stop⟩

/-- A tag token as JSON. -/
def TagToken.encode (t : TagToken) : Json :=
  .record [("text", .text t.text), ("offset", .ofNat t.offset)]

/-- A context as JSON, its kind first. -/
def CursorContext.encode : CursorContext → Json
  | attributeValue tag name =>
    .record [("kind", .text "attribute_value"), ("tag", .text tag), ("attribute", .text name)]
  | attributeName tag => .record [("kind", .text "attribute_name"), ("tag", tag.encode)]
  | tagStart typed => .record [("kind", .text "tag_start"), ("partial", .text typed)]
  | unknown => .record [("kind", .text "unknown")]

/-- A completion item as JSON. -/
def CompletionItem.encode (item : CompletionItem) : Json :=
  .recordOf
    [("label", some (.text item.label)),
     ("kind", some (.text item.kind.name)),
     ("insert_text", some (.text item.insertText)),
     ("is_snippet", some (.bool item.isSnippet)),
     ("detail", item.detail.map .text),
     ("documentation", item.documentation.map .text),
     ("sort_text", some (.text item.sortText)),
     ("replace_range", item.replaceRange.map Range.encode)]

/-- A completion item from JSON. -/
def CompletionItem.decode? (value : Json) : Option CompletionItem := do
  let [label, kind, insertText, isSnippet, detail, documentation, sortText, replaceRange] ←
    value.allFields? [["label"], ["kind"], ["insert_text"], ["is_snippet"], ["detail"],
      ["documentation"], ["sort_text"], ["replace_range"]] | none
  return {
    label := ← Json.required? Json.text? label
    kind := ← Json.required? (Json.constant? CompletionKind.ofName?) kind
    insertText := ← Json.required? Json.text? insertText
    isSnippet := ← Json.withDefault? false Json.bool? isSnippet
    detail := ← Json.optionalField? Json.text? detail
    documentation := ← Json.optionalField? Json.text? documentation
    sortText := ← Json.required? Json.text? sortText
    replaceRange := ← Json.optionalField? Range.decode? replaceRange }

/-- Completion items as JSON; the list is always complete. -/
def CompletionItem.encodeList (items : List CompletionItem) : Json :=
  .record [("items", .listOf encode items), ("is_incomplete", .bool false)]

/-- Documentation as JSON. -/
def HoverInfo.encode (info : HoverInfo) : Json :=
  .recordOf [("content", some (.text info.content)), ("range", info.range.map Range.encode)]

/-- Documentation from JSON. -/
def HoverInfo.decode? (value : Json) : Option HoverInfo := do
  let [content, range] ← value.allFields? [["content"], ["range"]] | none
  return ⟨← Json.required? Json.text? content, ← Json.optionalField? Range.decode? range⟩

/-- An explanation as JSON. -/
def RelatedInformation.encode (info : RelatedInformation) : Json :=
  .record [("range", info.range.encode), ("message", .text info.message)]

/-- An explanation from JSON. -/
def RelatedInformation.decode? (value : Json) : Option RelatedInformation := do
  let [range, message] ← value.fields? [["range"], ["message"]] | none
  return ⟨← Json.required? Range.decode? range, ← Json.required? Json.text? message⟩

/-- A finding as JSON. -/
def Diagnostic.encode (d : Diagnostic) : Json :=
  .recordOf
    [("range", some d.range.encode),
     ("severity", some (.text d.severity.name)),
     ("code", some (.text d.code)),
     ("source", some (.text d.source)),
     ("message", some (.text d.message)),
     ("related_information",
      if d.related.isEmpty then none else some (.listOf RelatedInformation.encode d.related))]

/-- A finding from JSON. -/
def Diagnostic.decode? (value : Json) : Option Diagnostic := do
  let [range, severity, code, source, message, related] ← value.fields?
    [["range"], ["severity"], ["code"], ["source"], ["message"], ["related_information"]] | none
  return {
    range := ← Json.required? Range.decode? range
    severity := ← Json.required? (Json.constant? Severity.ofName?) severity
    code := ← Json.required? Json.text? code
    source := ← Json.required? Json.text? source
    message := ← Json.required? Json.text? message
    related := ← Json.withDefault? [] (Json.list? RelatedInformation.decode?) related }

end MarkupAssist
