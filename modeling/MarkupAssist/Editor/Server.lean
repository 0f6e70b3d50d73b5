import MarkupAssist.Completion.Complete
import MarkupAssist.Config.Client
import MarkupAssist.Config.Load
import MarkupAssist.Editor.Message
import MarkupAssist.Editor.Presentation

/-!
# The server

What the server does with requests and notifications, once it runs. Its state is the configuration
and the open documents; the catalogue of elements never changes. Whenever the text of a document of
a validated language arrives, its findings are published (`Server.findings`), and when a document is
closed they are withdrawn.
-/

namespace MarkupAssist

/-- The state of a server. -/
structure Server where
  catalogue : Catalogue
  config : Config := {}
  documents : OpenDocuments := {}

/-- What the server sends to the editor by itself. -/
inductive Announcement where
  /-- All findings in a document, in the place of those sent before. -/
  | findings (uri : Uri) (diagnostics : List EditorDiagnostic) (version : Option Int)
  | log (message : String)
  deriving DecidableEq, Repr

/-- The result of a request. -/
inductive Response where
  | welcome (name : String)
  | nothing
  | items (items : List EditorItem)
  | hover (hover : EditorHover)
  deriving DecidableEq, Repr

namespace Server

/-- The findings in an open document of a validated language. -/
def findings (server : Server) (uri : Uri) : List Announcement :=
  match server.documents.get? uri with
  | some document =>
    if server.config.validates document.language then
      let doc := document.snapshot
      [.findings uri ((server.catalogue.validate doc).map doc.showDiagnostic)
        (some document.version)]
    else []
  | none => []

/-- The configuration of a workspace, if one is looked for and its root is a folder of this machine.
A broken configuration file leaves the configuration as it is. -/
def discoverConfig (folderAt : Uri → Folder) (config : Config) (root : Option Uri) : Config :=
  match root with
  | some uri =>
    if config.server.workspaceDiscovery && uri.hasLocalPath then
      match Config.discover (folderAt uri) with
      | .ok found => found
      | .error _ => config
    else config
  | none => config

/-- The server after its first request: the configuration of the workspace comes first, the options
of the editor come on top of it. -/
def start (server : Server) (folderAt : Uri → Folder) (root : Option Uri)
    (options : Option Json) : Server :=
  let config := discoverConfig folderAt server.config root
  -- Options that cannot be decoded are not an error here: they change nothing.
  { server with config := options.elim config config.afterClient }

/-- The completions at a place of an open document. -/
def complete (server : Server) (uri : Uri) (place : EditorPosition) : Response :=
  match server.documents.get? uri with
  | none => .nothing
  | some document =>
    let doc := document.snapshot
    match server.catalogue.complete doc (doc.ofEditor place) server.config.settings with
    | [] => .nothing
    | items => .items (items.map doc.showItem)

/-- The documentation at a place of an open document. -/
def hover (server : Server) (uri : Uri) (place : EditorPosition) : Response :=
  match server.documents.get? uri with
  | none => .nothing
  | some document =>
    let doc := document.snapshot
    match server.catalogue.hover doc (doc.ofEditor place) with
    | none => .nothing
    | some info => .hover (doc.showHover info)

/-- What a notification does. -/
def notify (server : Server) : Notification → Server × List Announcement
  | .initialized => (server, [.log (server.config.server.name ++ " ready")])
  | .opened uri document =>
    let server := { server with documents := server.documents.insert uri document }
    (server, server.findings uri)
  | .changed uri version texts =>
    match texts.getLast?.bind fun text => server.documents.update? uri text version with
    | none => (server, [])
    | some documents =>
      let server := { server with documents }
      (server, server.findings uri)
  | .closed uri =>
    ({ server with documents := server.documents.erase uri }, [.findings uri [] none])
  | .configured payload => ({ server with config := server.config.afterClient payload }, [])
  | .ignored => (server, [])

end Server

end MarkupAssist
