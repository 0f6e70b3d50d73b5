import MarkupAssist.Editor.Encode
import MarkupAssist.Editor.Server

/-!
# Sessions

The course of a session with an editor. A session waits for its first request, runs, is stopped and
ends (`Stage`). The messages that fit the stage go to the server, the others are refused:

* before the first request succeeds, requests are too early and notifications are dropped;
* the first request cannot be repeated;
* after the stop, requests are invalid and notifications are dropped;
* a method that the protocol does not know is refused in every stage, unless the editor may send it
  without the server knowing it.

`Session.step` is one message: the session after it, what is sent meanwhile, and the reply, if there
is one.
-/

namespace MarkupAssist

/-- How far a session has come. -/
inductive Stage where
  | waiting
  | running
  | stopped
  | ended
  deriving DecidableEq, Repr, Inhabited

/-- Why a request is refused. -/
inductive Refusal where
  | tooEarly
  | invalidRequest
  | unknownMethod
  | invalidParams
  deriving DecidableEq, Repr

/-- The number of a refusal on the wire. -/
def Refusal.code : Refusal → Int
  | tooEarly => -32002
  | invalidRequest => -32600
  | unknownMethod => -32601
  | invalidParams => -32602

/-- The refusal in words. -/
def Refusal.message : Refusal → String
  | tooEarly => "Server not initialized"
  | invalidRequest => "Invalid request"
  | unknownMethod => "Method not found"
  | invalidParams => "Invalid params"

/-- The reply to a request. -/
abbrev Reply := Except Refusal Response

/-- What comes of a message. -/
structure Outcome where
  sent : List Announcement := []
  reply : Option Reply := none

/-- A session with an editor. -/
structure Session where
  stage : Stage := .waiting
  server : Server

namespace Session

/-- Refuse a message; only a request learns of it. -/
def refuse (session : Session) (message : Message) (refusal : Refusal) : Session × Outcome :=
  (session, { reply := if message.isRequest then some (.error refusal) else none })

/-- Leave a message without effect and without reply. -/
def disregard (session : Session) : Session × Outcome :=
  (session, {})

/-- Why requests are refused in a stage in which the server does not run. -/
def Stage.refusal : Stage → Refusal
  | .waiting => .tooEarly
  | _ => .invalidRequest

/-- The first request. -/
def start (session : Session) (folderAt : Uri → Folder) (message : Message) :
    Session × Outcome :=
  if session.stage != .waiting then session.refuse message .invalidRequest
  -- Without an identifier there is nobody to welcome, and the session keeps waiting.
  else if !message.isRequest then session.disregard
  else
    match message.decoded? Message.start? with
    | some (.start root options) =>
      let server := session.server.start folderAt root options
      ({ stage := .running, server }, { reply := some (.ok (.welcome server.config.server.name)) })
    | _ => session.refuse message .invalidParams

/-- The request to stop, which has no parameters. -/
def shutdown (session : Session) (message : Message) : Session × Outcome :=
  if session.stage != .running then session.refuse message (Stage.refusal session.stage)
  else
    -- The session stops even if the request is malformed.
    let session := { session with stage := .stopped }
    if message.params.isSome then session.refuse message .invalidParams
    else (session, { reply := if message.isRequest then some (.ok .nothing) else none })

/-- The reply of a running server to a request. -/
def respond (server : Server) : Request → Reply
  | .complete uri place => .ok (server.complete uri place)
  | .hover uri place => .ok (server.hover uri place)
  | _ => .error .unknownMethod

/-- A request to a running server. -/
def request (session : Session) (message : Message) (decode : Json → Option Request) :
    Session × Outcome :=
  if session.stage != .running then session.refuse message (Stage.refusal session.stage)
  else if !message.isRequest then session.disregard
  else
    match message.decoded? decode with
    | some request => (session, { reply := some (respond session.server request) })
    | none => session.refuse message .invalidParams

/-- A notification to a running server. -/
def notification (session : Session) (message : Message) (decode : Json → Option Notification) :
    Session × Outcome :=
  if session.stage != .running then session.refuse message (Stage.refusal session.stage)
  else if message.isRequest then session.disregard
  else
    match message.decoded? decode with
    | some notification =>
      let (server, sent) := session.server.notify notification
      ({ session with server }, { sent })
    | none => session.disregard

/-- Whether a method may be sent without the server knowing it. -/
def isOptional (method : String) : Bool :=
  "$/".toList.isPrefixOf method.toList

/-- One message of a session. -/
def step (folderAt : Uri → Folder) (session : Session) (message : Message) : Session × Outcome :=
  if session.stage = .ended then session.disregard
  else
    match Method.ofName? message.method with
    | some .start => session.start folderAt message
    | some .shutdown => session.shutdown message
    | some .exit => ({ session with stage := .ended }, {})
    | some (.request decode) => session.request message decode
    | some (.notification decode) => session.notification message decode
    | none =>
      if isOptional message.method then session.disregard
      else session.refuse message .unknownMethod

end Session

/-! ### Wire format -/

/-- The version that the server introduces itself with. -/
def serverVersion : String := "0.1.0"

/-- What the server offers: completion with its trigger characters, documentation, and documents
that are sent as a whole. -/
def encodeCapabilities : Json :=
  .record
    [("textDocumentSync", .record [("openClose", .bool true), ("change", .ofNat 1)]),
     ("hoverProvider", .bool true),
     ("completionProvider", .record
      [("resolveProvider", .bool false),
       ("triggerCharacters", .listOf .text triggerCharacters)])]

/-- The result of a request as JSON. -/
def Response.encode : Response → Json
  | welcome name =>
    .record
      [("capabilities", encodeCapabilities),
       ("serverInfo", .record [("name", .text name), ("version", .text serverVersion)])]
  | nothing => .null
  | items list =>
    .record [("isIncomplete", .bool false), ("items", .listOf EditorItem.encode list)]
  | hover info => info.encode

/-- The method of an announcement. -/
def Announcement.method : Announcement → String
  | findings .. => "textDocument/publishDiagnostics"
  | log _ => "window/logMessage"

/-- The parameters of an announcement. -/
def Announcement.params : Announcement → Json
  | findings uri diagnostics version =>
    .recordOf
      [("uri", some (.text uri.text)),
       ("diagnostics", some (.listOf (EditorDiagnostic.encode uri) diagnostics)),
       ("version", version.map .ofInt)]
  | log message => .record [("type", .ofNat 3), ("message", .text message)]

end MarkupAssist
