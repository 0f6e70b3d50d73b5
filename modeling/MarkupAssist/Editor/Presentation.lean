import MarkupAssist.Completion.Item
import MarkupAssist.Diagnostic
import MarkupAssist.Documentation
import MarkupAssist.Editor.Position

/-!
# Results for an editor

Completion items, documentation and findings as they are shown in an editor. They are those of the
library with their ranges counted as the editor counts.
-/

namespace MarkupAssist

/-- A completion item in an editor. -/
structure EditorItem where
  label : String
  kind : CompletionKind
  insertText : String
  isSnippet : Bool
  detail : Option String
  documentation : Option String
  sortText : String
  /-- What the text replaces; without a range the editor decides. -/
  replaceRange : Option EditorRange
  deriving DecidableEq, Repr

/-- Documentation in an editor. -/
structure EditorHover where
  content : String
  range : Option EditorRange
  deriving DecidableEq, Repr

/-- An explanation of a finding in an editor. -/
structure EditorNote where
  range : EditorRange
  message : String
  deriving DecidableEq, Repr

/-- A finding in an editor. -/
structure EditorDiagnostic where
  range : EditorRange
  severity : Severity
  code : String
  source : String
  message : String
  related : List EditorNote
  deriving DecidableEq, Repr

namespace Document

/-- A completion item as it is shown. -/
def showItem (doc : Document) (item : CompletionItem) : EditorItem :=
  { label := item.label
    kind := item.kind
    insertText := item.insertText
    isSnippet := item.isSnippet
    detail := item.detail
    documentation := item.documentation
    sortText := item.sortText
    replaceRange := item.replaceRange.map doc.toEditorRange }

/-- Documentation as it is shown. -/
def showHover (doc : Document) (info : HoverInfo) : EditorHover :=
  ⟨info.content, info.range.map doc.toEditorRange⟩

/-- A finding as it is shown. -/
def showDiagnostic (doc : Document) (d : Diagnostic) : EditorDiagnostic :=
  { range := doc.toEditorRange d.range
    severity := d.severity
    code := d.code
    source := d.source
    message := d.message
    related := d.related.map fun info => ⟨doc.toEditorRange info.range, info.message⟩ }

end Document

end MarkupAssist
