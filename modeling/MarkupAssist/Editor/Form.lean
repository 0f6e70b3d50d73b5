import MarkupAssist.Json.Form
import MarkupAssist.Uri

/-!
# Forms of the protocol's data

The forms that the protocol between editor and server prescribes for the data in its messages:
places in documents, edits, commands, findings, symbols. The server reads little of this data, but
a request is refused if any part of it does not have its form.
-/

namespace MarkupAssist.EditorForm

open Json (Form Field)
open Json.Form Json.Field

/-! ### Documents and places -/

/-- An absolute address. -/
def address : Form := textWith fun t => (Uri.parse? t).isSome

/-- A place in a document. -/
def position : Form := record [needs "line" natural, needs "character" natural]

/-- The span between two places. -/
def range : Form := record [needs "start" position, needs "end" position]

/-- A range in a document that is named. -/
def location : Form := record [needs "uri" address, needs "range" range]

/-- The name of a document. -/
def document : Form := record [needs "uri" address]

/-- The field for a document. -/
def documentField : Field := needs "textDocument" document

/-- The field for a range. -/
def rangeField : Field := needs "range" range

/-- The fields for a document and a place in it. -/
def placeFields : List Field := [documentField, needs "position" position]

/-- A number or a string. -/
def numberOrText : Form := either integer text

/-- The field for the name under which progress is reported. -/
def progressField : Field := allows "workDoneToken" numberOrText

/-- The fields for the names under which progress and parts of the result are reported. -/
def reportFields : List Field := [progressField, allows "partialResultToken" numberOrText]

/-! ### Texts -/

/-- A kind of markup. -/
def markupKind : Form := constant ["plaintext", "markdown"]

/-- A text, plain or with its kind of markup. -/
def documentation : Form :=
  either text (record [needs "kind" markupKind, needs "value" text])

/-- A command to run. -/
def command : Form :=
  record [needs "title" text, needs "command" text, allows "arguments" (list any)]

/-! ### Edits -/

/-- The change of a range. -/
def edit : Form := record [rangeField, needs "newText" text]

/-- The change of a range that is explained elsewhere. -/
def annotatedEdit : Form :=
  asObject (record [rangeField, needs "newText" text, needs "annotationId" text])

/-- The changes of one version of a document. -/
def documentEdit : Form :=
  record
    [needs "textDocument" (record [needs "uri" address, allows "version" integer]),
     needs "edits" (list (either edit annotatedEdit))]

/-- What to do about a file that is there or not. -/
def fileOptions (names : List String) : Field :=
  allows "options" (record (names.map fun name => allows name flag))

/-- The field for the explanation of a change. -/
def annotationField : Field := allows "annotationId" text

/-- The creation, renaming or removal of a file. -/
def fileOperation : Form :=
  let operation (kind : String) (fields : List Field) : Form :=
    asObject (record (needs "kind" (textWith (· == kind)) :: fields))
  either
    (operation "create"
      [needs "uri" address, fileOptions ["overwrite", "ignoreIfExists"], annotationField])
    (either
      (operation "rename"
        [needs "oldUri" address, needs "newUri" address,
         fileOptions ["overwrite", "ignoreIfExists"], annotationField])
      (operation "delete"
        [needs "uri" address, fileOptions ["recursive", "ignoreIfNotExists"]]))

/-- Changes of several documents and files. -/
def workspaceEdit : Form :=
  record
    [allows "changes" (dictionary (fun t => (Uri.parse? t).isSome) (list edit)),
     allows "documentChanges"
       (either (list documentEdit) (list (either fileOperation documentEdit))),
     allows "changeAnnotations" (dictionary (fun _ => true)
       (record
         [needs "label" text, allows "needsConfirmation" flag, allows "description" text]))]

/-! ### Findings and actions -/

/-- A finding. -/
def diagnostic : Form :=
  record
    [rangeField, allows "severity" integer, allows "code" numberOrText,
     allows "codeDescription" (record [needs "href" address]), allows "source" text,
     needs "message" text,
     allows "relatedInformation"
       (list (record [needs "location" location, needs "message" text])),
     allows "tags" (list integer), allows "data" any]

/-- What led to a request for actions. -/
def actionContext : Form :=
  record
    [needs "diagnostics" (list diagnostic), allows "only" (list text),
     allows "triggerKind" integer]

/-- An action. -/
def action : Form :=
  record
    [needs "title" text, allows "kind" text, allows "diagnostics" (list diagnostic),
     allows "edit" workspaceEdit, allows "command" command, allows "isPreferred" flag,
     allows "disabled" (record [needs "reason" text]), allows "data" any]

/-! ### Completion and signatures -/

/-- What started a completion. -/
def completionContext : Form :=
  record [needs "triggerKind" integer, allows "triggerCharacter" text]

/-- A completion item. -/
def completionItem : Form :=
  record
    [needs "label" text,
     allows "labelDetails" (record [allows "detail" text, allows "description" text]),
     allows "kind" integer, allows "detail" text, allows "documentation" documentation,
     allows "deprecated" flag, allows "preselect" flag, allows "sortText" text,
     allows "filterText" text, allows "insertText" text,
     allows "insertTextFormat" integer, allows "insertTextMode" integer,
     allows "textEdit" (either edit
       (record [needs "newText" text, needs "insert" range, needs "replace" range])),
     allows "additionalTextEdits" (list edit), allows "command" command,
     allows "commitCharacters" (list text), allows "data" any,
     allows "tags" (list integer)]

/-- The signatures of a function. -/
def signatures : Form :=
  let parameter : Form :=
    record
      [needs "label" (either text (pair natural natural)),
       allows "documentation" documentation]
  let signature : Form :=
    record
      [needs "label" text, allows "documentation" documentation,
       allows "parameters" (list parameter), allows "activeParameter" natural]
  record
    [needs "signatures" (list signature), allows "activeSignature" natural,
     allows "activeParameter" natural]

/-- What started a request for signatures. -/
def signatureContext : Form :=
  record
    [needs "triggerKind" integer, allows "triggerCharacter" text,
     needs "isRetrigger" flag, allows "activeSignatureHelp" signatures]

/-! ### Symbols and hints -/

/-- A node of a hierarchy of symbols, given the form of its tags. -/
def hierarchyItem (tags : Form) : Form :=
  record
    [needs "name" text, needs "kind" integer, allows "tags" tags, allows "detail" text,
     needs "uri" address, rangeField, needs "selectionRange" range, allows "data" any]

/-- A symbol of a workspace. -/
def symbol : Form :=
  record
    [needs "name" text, needs "kind" integer, allows "tags" (list integer),
     allows "containerName" text, needs "location" (either location document),
     allows "data" any]

/-- A hint inside the text. -/
def hint : Form :=
  let part : Form :=
    record
      [needs "value" text, allows "tooltip" documentation, allows "location" location,
       allows "command" command]
  record
    [needs "position" position, needs "label" (either text (list part)),
     allows "kind" integer, allows "textEdits" (list edit),
     allows "tooltip" documentation, allows "paddingLeft" flag,
     allows "paddingRight" flag, allows "data" any]

/-- A reference to another document. -/
def link : Form :=
  record
    [rangeField, allows "target" address, allows "tooltip" text, allows "data" any]

/-- A command that is shown beside a range. -/
def lens : Form :=
  record [rangeField, allows "command" command, allows "data" any]

/-! ### Format -/

/-- How a document is formatted. -/
def formatting : Form :=
  openRecord
    [needs "tabSize" natural, needs "insertSpaces" flag,
     allows "trimTrailingWhitespace" flag, allows "insertFinalNewline" flag,
     allows "trimFinalNewlines" flag]
    (either flag numberOrText)

/-- A colour. -/
def color : Form :=
  record
    [needs "red" decimal, needs "green" decimal, needs "blue" decimal,
     needs "alpha" decimal]

end MarkupAssist.EditorForm
