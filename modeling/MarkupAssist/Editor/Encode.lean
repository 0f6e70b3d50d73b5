import MarkupAssist.Editor.Presentation
import MarkupAssist.Json.Basic
import MarkupAssist.Uri

/-!
# The wire format of an editor

Results for an editor as JSON. Kinds and severities are numbers there, texts with markup say so, and
a part that is not there is left out.
-/

namespace MarkupAssist

/-- A position as JSON. -/
def EditorPosition.encode (p : EditorPosition) : Json :=
  .record [("line", .ofNat p.line), ("character", .ofNat p.character)]

/-- A range as JSON. -/
def EditorRange.encode (r : EditorRange) : Json :=
  .record [("start", r.start.encode), ("end", r.stop.encode)]

/-- A text with markup. -/
def encodeMarkdown (text : String) : Json :=
  .record [("kind", .text "markdown"), ("value", .text text)]

/-- The number of a kind of completion item. -/
def CompletionKind.number : CompletionKind → Nat
  | element => 7
  | .attribute => 10
  | method => 2
  | value => 12

/-- A completion item as JSON. The text stands in the edit if there is one. -/
def EditorItem.encode (item : EditorItem) : Json :=
  .recordOf
    [("label", some (.text item.label)),
     ("kind", some (.ofNat item.kind.number)),
     ("detail", item.detail.map .text),
     ("documentation", item.documentation.map encodeMarkdown),
     ("sortText", some (.text item.sortText)),
     ("insertText", if item.replaceRange.isSome then none else some (.text item.insertText)),
     ("insertTextFormat", some (.ofNat (if item.isSnippet then 2 else 1))),
     ("textEdit", item.replaceRange.map fun range =>
       .record [("range", range.encode), ("newText", .text item.insertText)])]

/-- Documentation as JSON. -/
def EditorHover.encode (hover : EditorHover) : Json :=
  .recordOf
    [("contents", some (encodeMarkdown hover.content)),
     ("range", hover.range.map EditorRange.encode)]

/-- The number of a severity. -/
def Severity.number : Severity → Nat
  | error => 1
  | warning => 2
  | info => 3
  | hint => 4

/-- An explanation as JSON, with the address of its document. -/
def EditorNote.encode (uri : Uri) (note : EditorNote) : Json :=
  .record
    [("location", .record [("uri", .text uri.text), ("range", note.range.encode)]),
     ("message", .text note.message)]

/-- A finding in a document as JSON. -/
def EditorDiagnostic.encode (uri : Uri) (d : EditorDiagnostic) : Json :=
  .recordOf
    [("range", some d.range.encode),
     ("severity", some (.ofNat d.severity.number)),
     ("code", some (.text d.code)),
     ("source", some (.text d.source)),
     ("message", some (.text d.message)),
     ("relatedInformation",
      if d.related.isEmpty then none else some (.listOf (EditorNote.encode uri) d.related))]

end MarkupAssist
