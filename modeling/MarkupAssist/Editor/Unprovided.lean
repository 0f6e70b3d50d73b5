import MarkupAssist.Editor.Form

/-!
# Requests that are not answered

The requests of the protocol that the server does not answer, each with the form of its parameters.
They are known because a request is refused in one way if its parameters do not have their form, and
in another way if they do.
-/

namespace MarkupAssist.EditorForm

open Json (Form Field)
open Json.Form Json.Field

/-- Parameters with fields and the names under which progress is reported. -/
def parameters (fields : List Field) : Form := asObject (record (fields ++ [progressField]))

/-- Parameters with fields and the names under which progress and parts are reported. -/
def queryParameters (fields : List Field) : Form := asObject (record (fields ++ reportFields))

/-- Files of which each has addresses under some names. -/
def files (names : List String) : Form :=
  record [needs "files" (list (record (names.map fun name => needs name text)))]

/-- The requests about one document. -/
def documentRequests : List (String × Form) :=
  [("textDocument/willSaveWaitUntil", record [documentField, needs "reason" integer]),
   ("textDocument/documentLink", queryParameters [documentField]),
   ("textDocument/codeLens", queryParameters [documentField]),
   ("textDocument/foldingRange", queryParameters [documentField]),
   ("textDocument/selectionRange",
    queryParameters [documentField, needs "positions" (list position)]),
   ("textDocument/documentSymbol", queryParameters [documentField]),
   ("textDocument/semanticTokens/full", queryParameters [documentField]),
   ("textDocument/semanticTokens/full/delta",
    queryParameters [documentField, needs "previousResultId" text]),
   ("textDocument/semanticTokens/range", queryParameters [documentField, rangeField]),
   ("textDocument/inlineValue", parameters
     [documentField, rangeField,
      needs "context" (record [needs "frameId" integer, needs "stoppedLocation" range])]),
   ("textDocument/inlayHint", parameters [documentField, rangeField]),
   ("textDocument/diagnostic", queryParameters
     [documentField, allows "identifier" text, allows "previousResultId" text]),
   ("textDocument/codeAction",
    queryParameters [documentField, rangeField, needs "context" actionContext]),
   ("textDocument/documentColor", queryParameters [documentField]),
   ("textDocument/colorPresentation",
    queryParameters [documentField, needs "color" color, rangeField]),
   ("textDocument/formatting", parameters [documentField, needs "options" formatting]),
   ("textDocument/rangeFormatting",
    parameters [documentField, rangeField, needs "options" formatting])]

/-- The requests about a place in a document. -/
def placeRequests : List (String × Form) :=
  [("textDocument/declaration", queryParameters placeFields),
   ("textDocument/definition", queryParameters placeFields),
   ("textDocument/typeDefinition", queryParameters placeFields),
   ("textDocument/implementation", queryParameters placeFields),
   ("textDocument/references", queryParameters
     (placeFields ++ [needs "context" (record [needs "includeDeclaration" flag])])),
   ("textDocument/prepareCallHierarchy", parameters placeFields),
   ("textDocument/prepareTypeHierarchy", parameters placeFields),
   ("textDocument/documentHighlight", queryParameters placeFields),
   ("textDocument/moniker", queryParameters placeFields),
   ("textDocument/signatureHelp",
    parameters (placeFields ++ [allows "context" signatureContext])),
   ("textDocument/onTypeFormatting", asObject (record
     (placeFields ++ [needs "ch" text, needs "options" formatting]))),
   ("textDocument/rename", parameters (placeFields ++ [needs "newName" text])),
   ("textDocument/prepareRename", record placeFields),
   ("textDocument/linkedEditingRange", parameters placeFields)]

/-- The requests that complete an earlier answer. -/
def itemRequests : List (String × Form) :=
  [("callHierarchy/incomingCalls",
    queryParameters [needs "item" (hierarchyItem (list integer))]),
   ("callHierarchy/outgoingCalls",
    queryParameters [needs "item" (hierarchyItem (list integer))]),
   ("typeHierarchy/supertypes", queryParameters [needs "item" (hierarchyItem integer)]),
   ("typeHierarchy/subtypes", queryParameters [needs "item" (hierarchyItem integer)]),
   ("documentLink/resolve", link),
   ("codeLens/resolve", lens),
   ("inlayHint/resolve", hint),
   ("completionItem/resolve", completionItem),
   ("codeAction/resolve", action),
   ("workspaceSymbol/resolve", symbol)]

/-- The requests about the workspace. -/
def workspaceRequests : List (String × Form) :=
  [("workspace/diagnostic", queryParameters
     [allows "identifier" text,
      needs "previousResultIds" (list (record [needs "uri" address, needs "value" text]))]),
   ("workspace/symbol", queryParameters [needs "query" text]),
   ("workspace/willCreateFiles", files ["uri"]),
   ("workspace/willRenameFiles", files ["oldUri", "newUri"]),
   ("workspace/willDeleteFiles", files ["uri"]),
   ("workspace/executeCommand",
    parameters [needs "command" text, defaults "arguments" (list any)])]

/-- The requests that the server does not answer. -/
def unprovidedRequests : List (String × Form) :=
  documentRequests ++ placeRequests ++ itemRequests ++ workspaceRequests

end MarkupAssist.EditorForm
