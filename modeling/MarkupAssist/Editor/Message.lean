import MarkupAssist.Editor.Capabilities
import MarkupAssist.Editor.OpenDocuments
import MarkupAssist.Editor.Position
import MarkupAssist.Editor.Unprovided
import MarkupAssist.Json.Collapsed

/-!
# Messages of an editor

A message names a method and has parameters. Requests want an answer, notifications do not. What a
method is, is fixed by the protocol, whether a message is a request by its form
(`Message.isRequest`); if the two do not fit, the message has no effect.

The server answers few of the requests of the protocol. The others are known too
(`Method.unprovided`), because a message that the protocol does not know is refused in another way,
and so are parameters that do not have the form of their method.
-/

namespace MarkupAssist

/-- A message as it arrives. -/
structure Message where
  method : String
  params : Option Json
  isRequest : Bool

/-- What a decoder makes of the parameters, which it is given as dictionaries. -/
def Message.decoded? {α : Type} (message : Message) (decode : Json → Option α) : Option α :=
  message.params.bind fun value => decode value.collapsed

/-- A request with its parameters. -/
inductive Request where
  | start (root : Option Uri) (options : Option Json)
  | shutdown
  | complete (uri : Uri) (place : EditorPosition)
  | hover (uri : Uri) (place : EditorPosition)
  /-- A request of the protocol that the server does not answer. -/
  | unprovided

/-- A notification with its parameters. -/
inductive Notification where
  | initialized
  | opened (uri : Uri) (document : OpenDocument)
  /-- A document has changed; of the texts only the last one counts. -/
  | changed (uri : Uri) (version : Int) (texts : List String)
  | closed (uri : Uri)
  | configured (payload : Json)
  /-- A notification of the protocol that has no effect. -/
  | ignored

/-! ### Parts of parameters -/

/-- An address from JSON. -/
def Uri.decode? (value : Json) : Option Uri :=
  value.text?.bind Uri.parse?

/-- The numbers of an editor's positions are below this bound. -/
def EditorPosition.bound : Nat := 0x100000000

/-- A position from JSON. -/
def EditorPosition.decode? (value : Json) : Option EditorPosition := do
  let [line, character] ← value.fields? [["line"], ["character"]] | none
  return ⟨← Json.required? (Json.natBelow? bound) line,
    ← Json.required? (Json.natBelow? bound) character⟩

/-- A range from JSON. -/
def EditorRange.decode? (value : Json) : Option EditorRange := do
  let [start, stop] ← value.fields? [["start"], ["end"]] | none
  return ⟨← Json.required? EditorPosition.decode? start,
    ← Json.required? EditorPosition.decode? stop⟩

namespace Message

/-- The address in the description of a document. -/
def documentUri? (value : Json) : Option Uri := do
  let [uri] ← value.fields? [["uri"]] | none
  Json.required? Uri.decode? uri

/-- A document and a place in it. -/
def documentPlace? (value : Json) : Option (Uri × EditorPosition) := do
  let [document, place] ← value.fields? [["textDocument"], ["position"]] | none
  return (← Json.required? documentUri? document, ← Json.required? EditorPosition.decode? place)

/-! ### Parameters of requests -/

/-- The parameters of the first request. -/
def start? (value : Json) : Option Request := do
  let [root, options] ← value.fields? [["rootUri"], ["initializationOptions"]] | none
  if EditorForm.start value then
    some (.start (← Json.optionalField? Uri.decode? root) (← Json.optionalField? some options))
  else none

/-- The form of the parameters of a completion. -/
def completeForm : Json.Form :=
  EditorForm.queryParameters
    (EditorForm.placeFields ++ [.allows "context" EditorForm.completionContext])

/-- The parameters of a completion. -/
def complete? (value : Json) : Option Request := do
  let (uri, place) ← documentPlace? value
  if completeForm value then some (.complete uri place) else none

/-- The parameters of a request for documentation. -/
def hover? (value : Json) : Option Request := do
  let (uri, place) ← documentPlace? value
  if EditorForm.parameters EditorForm.placeFields value then some (.hover uri place) else none

/-! ### Parameters of notifications -/

/-- The parameters of an opened document. -/
def opened? (value : Json) : Option Notification := do
  let [document] ← value.fields? [["textDocument"]] | none
  let [uri, language, version, text] ←
    (← document).fields? [["uri"], ["languageId"], ["version"], ["text"]] | none
  return .opened (← Json.required? Uri.decode? uri)
    { content := ← Json.required? Json.text? text
      version := ← Json.required? (Json.signed? 32) version
      language := ← Json.required? Json.text? language }

/-- The text of one change. -/
def changeText? (value : Json) : Option String := do
  let [range, length, text] ← value.fields? [["range"], ["rangeLength"], ["text"]] | none
  let _ ← Json.optionalField? EditorRange.decode? range
  let _ ← Json.optionalField? (Json.natBelow? EditorPosition.bound) length
  Json.required? Json.text? text

/-- The parameters of a changed document. -/
def changed? (value : Json) : Option Notification := do
  let [document, changes] ← value.fields? [["textDocument"], ["contentChanges"]] | none
  let [uri, version] ← (← document).fields? [["uri"], ["version"]] | none
  return .changed (← Json.required? Uri.decode? uri) (← Json.required? (Json.signed? 32) version)
    (← Json.required? (Json.list? changeText?) changes)

/-- The parameters of a closed document. -/
def closed? (value : Json) : Option Notification := do
  let [document] ← value.fields? [["textDocument"]] | none
  return .closed (← Json.required? documentUri? document)

/-- The parameters of a changed configuration. -/
def configured? (value : Json) : Option Notification := do
  let [settings] ← value.fields? [["settings"]] | none
  return .configured (← settings)

/-- The notifications of the protocol that have no effect. -/
def ignoredNotifications : List String :=
  ["textDocument/willSave", "textDocument/didSave", "workspace/didChangeWorkspaceFolders",
   "workspace/didCreateFiles", "workspace/didRenameFiles", "workspace/didDeleteFiles",
   "workspace/didChangeWatchedFiles"]

end Message

/-! ### Methods -/

/-- A method of the protocol with the decoder of its parameters. -/
inductive Method where
  | start
  | shutdown
  | exit
  | request (decode : Json → Option Request)
  | notification (decode : Json → Option Notification)

namespace Method

open Message

/-- The methods that the server serves. -/
def provided : List (String × Method) :=
  [("initialize", .start),
   ("shutdown", .shutdown),
   ("exit", .exit),
   ("textDocument/completion", .request complete?),
   ("textDocument/hover", .request hover?),
   ("initialized", .notification fun value =>
     if Json.Form.record [] value then some .initialized else none),
   ("textDocument/didOpen", .notification opened?),
   ("textDocument/didChange", .notification changed?),
   ("textDocument/didClose", .notification closed?),
   ("workspace/didChangeConfiguration", .notification configured?)]

/-- The methods that the server knows but does not serve. -/
def unprovided : List (String × Method) :=
  EditorForm.unprovidedRequests.map (fun (name, form) =>
    (name, .request fun value => if form value then some .unprovided else none)) ++
  ignoredNotifications.map fun name => (name, .notification fun _ => some .ignored)

/-- The method of a name. -/
def ofName? (name : String) : Option Method :=
  (provided ++ unprovided).lookup name

end Method

end MarkupAssist
