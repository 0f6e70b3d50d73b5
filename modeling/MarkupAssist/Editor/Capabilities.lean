import MarkupAssist.Editor.Form

/-!
# What an editor can do

The form in which an editor lists its abilities when a session starts. Every part may be missing;
the server makes use of none.
-/

namespace MarkupAssist.EditorForm

open Json (Form Field)
open Json.Form Json.Field

/-- Abilities that are there or not. -/
def flags (names : List String) : List Field :=
  names.map fun name => allows name flag

/-- An ability that can be announced later. -/
def announced : Form := record (flags ["dynamicRegistration"])

/-- An ability that can be announced later, with further ones. -/
def announcedWith (fields : List Field) : Form :=
  record (allows "dynamicRegistration" flag :: fields)

/-- The values that an editor knows. -/
def knownValues (value : Form) : Form := record [allows "valueSet" (list value)]

/-- The properties that can be filled in later. -/
def lateProperties : Field :=
  allows "resolveSupport" (record [needs "properties" (list text)])

/-- Whether tags are known, or which. -/
def tagSupport : Field :=
  allows "tagSupport" (either flag (record [needs "valueSet" (list integer)]))

/-- Whether a view can be asked to refresh. -/
def refreshable (name : String) : Field :=
  allows name (record (flags ["refreshSupport"]))

/-! ### Workspace -/

/-- How an editor changes several documents. -/
def workspaceEditAbilities : Form :=
  record
    [allows "documentChanges" flag,
     allows "resourceOperations" (list (constant ["create", "rename", "delete"])),
     allows "failureHandling"
       (constant ["abort", "transactional", "textOnlyTransactional", "undo"]),
     allows "normalizesLineEndings" flag,
     allows "changeAnnotationSupport" (record (flags ["groupsOnLabel"]))]

/-- Abilities of the workspace. -/
def workspaceAbilities : Form :=
  record
    [allows "applyEdit" flag,
     allows "workspaceEdit" workspaceEditAbilities,
     allows "didChangeConfiguration" announced,
     allows "didChangeWatchedFiles" (announcedWith (flags ["relativePatternSupport"])),
     allows "symbol" (announcedWith
       [allows "symbolKind" (knownValues integer), tagSupport, lateProperties]),
     allows "executeCommand" announced,
     allows "workspaceFolders" flag,
     allows "configuration" flag,
     refreshable "semanticTokens",
     refreshable "codeLens",
     allows "fileOperations" (announcedWith
       (flags ["didCreate", "willCreate", "didRename", "willRename", "didDelete", "willDelete"])),
     refreshable "inlineValue",
     refreshable "inlayHint",
     refreshable "diagnostic"]

/-! ### Documents -/

/-- Abilities with completion items. -/
def completionAbilities : Form :=
  announcedWith
    [allows "completionItem" (record
       (flags ["snippetSupport", "commitCharactersSupport"] ++
        [allows "documentationFormat" (list markupKind)] ++
        flags ["deprecatedSupport", "preselectSupport"] ++
        [tagSupport, allows "insertReplaceSupport" flag, lateProperties,
         allows "insertTextModeSupport" (record [needs "valueSet" (list integer)]),
         allows "labelDetailsSupport" flag])),
     allows "completionItemKind" (knownValues integer),
     allows "contextSupport" flag,
     allows "insertTextMode" integer,
     allows "completionList" (record [allows "itemDefaults" (list text)])]

/-- Abilities with signatures. -/
def signatureAbilities : Form :=
  announcedWith
    [allows "signatureInformation" (record
       [allows "documentationFormat" (list markupKind),
        allows "parameterInformation" (record (flags ["labelOffsetSupport"])),
        allows "activeParameterSupport" flag]),
     allows "contextSupport" flag]

/-- Abilities with actions. -/
def actionAbilities : Form :=
  announcedWith
    [allows "codeActionLiteralSupport" (record
       [needs "codeActionKind" (record [needs "valueSet" (list text)])]),
     allows "isPreferredSupport" flag,
     allows "disabledSupport" flag,
     allows "dataSupport" flag,
     lateProperties,
     allows "honorsChangeAnnotations" flag]

/-- Abilities with coloured tokens. -/
def tokenAbilities : Form :=
  announcedWith
    ([needs "requests" (record
        [allows "range" flag,
         allows "full" (either flag (record (flags ["delta"])))]),
      needs "tokenTypes" (list text),
      needs "tokenModifiers" (list text),
      needs "formats" (list text)] ++
     flags
       ["overlappingTokenSupport", "multilineTokenSupport", "serverCancelSupport",
        "augmentsSyntaxTokens"])

/-- Abilities with folded ranges. -/
def foldingAbilities : Form :=
  announcedWith
    [allows "rangeLimit" natural,
     allows "lineFoldingOnly" flag,
     allows "foldingRangeKind" (knownValues (constant ["comment", "imports", "region"])),
     allows "foldingRange" (record (flags ["collapsedText"]))]

/-- Abilities with documents. -/
def documentAbilities : Form :=
  let jump : Form := announcedWith (flags ["linkSupport"])
  record
    [allows "synchronization"
       (announcedWith (flags ["willSave", "willSaveWaitUntil", "didSave"])),
     allows "completion" completionAbilities,
     allows "hover" (announcedWith [allows "contentFormat" (list markupKind)]),
     allows "signatureHelp" signatureAbilities,
     allows "references" announced,
     allows "documentHighlight" announced,
     allows "documentSymbol" (announcedWith
       [allows "symbolKind" (knownValues integer),
        allows "hierarchicalDocumentSymbolSupport" flag, tagSupport]),
     allows "formatting" announced,
     allows "rangeFormatting" announced,
     allows "onTypeFormatting" announced,
     allows "declaration" jump,
     allows "definition" jump,
     allows "typeDefinition" jump,
     allows "implementation" jump,
     allows "codeAction" actionAbilities,
     allows "codeLens" announced,
     allows "documentLink" (announcedWith (flags ["tooltipSupport"])),
     allows "colorProvider" announced,
     allows "rename" (announcedWith
       [allows "prepareSupport" flag, allows "prepareSupportDefaultBehavior" integer,
        allows "honorsChangeAnnotations" flag]),
     allows "publishDiagnostics" (record
       [allows "relatedInformation" flag, tagSupport, allows "versionSupport" flag,
        allows "codeDescriptionSupport" flag, allows "dataSupport" flag]),
     allows "foldingRange" foldingAbilities,
     allows "selectionRange" announced,
     allows "linkedEditingRange" announced,
     allows "callHierarchy" announced,
     allows "semanticTokens" tokenAbilities,
     allows "moniker" announced,
     allows "typeHierarchy" announced,
     allows "inlineValue" announced,
     allows "inlayHint" (announcedWith [lateProperties]),
     allows "diagnostic" (announcedWith (flags ["relatedDocumentSupport"]))]

/-! ### All abilities -/

/-- Abilities of the window. -/
def windowAbilities : Form :=
  record
    [allows "workDoneProgress" flag,
     allows "showMessage" (record
       [allows "messageActionItem" (record (flags ["additionalPropertiesSupport"]))]),
     allows "showDocument" (record [needs "support" flag])]

/-- Abilities of no special place. -/
def generalAbilities : Form :=
  record
    [allows "regularExpressions" (record [needs "engine" text, allows "version" text]),
     allows "markdown" (record
       [needs "parser" text, allows "version" text, allows "allowedTags" (list text)]),
     allows "staleRequestSupport" (record
       [needs "cancel" flag, needs "retryOnContentModified" (list text)]),
     allows "positionEncodings" (list text)]

/-- The abilities of an editor. -/
def abilities : Form :=
  record
    [allows "workspace" workspaceAbilities,
     allows "textDocument" documentAbilities,
     allows "window" windowAbilities,
     allows "general" generalAbilities,
     allows "experimental" any]

/-- The parameters of the first request. -/
def start : Form :=
  asObject (record
    [allows "processId" natural, allows "rootPath" text, allows "rootUri" address,
     allows "initializationOptions" any, needs "capabilities" abilities,
     allows "trace" (constant ["off", "messages", "verbose"]),
     allows "workspaceFolders"
       (list (record [needs "uri" address, needs "name" text])),
     allows "clientInfo" (record [needs "name" text, allows "version" text]),
     allows "locale" text])

end MarkupAssist.EditorForm
