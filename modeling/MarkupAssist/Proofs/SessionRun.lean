import MarkupAssist.Editor.Session
import MarkupAssist.Proofs.DocumentStore

/-!
# Sessions, message by message

A session is a state that is changed by one message at a time. This module says once what a message
can do, so that the theorems about whole sessions need not look at the handlers again.

* `Session.after` and `Session.transcript` are the session after a number of messages and what came
  of each of them.
* `published`: what has been published for one address among all that was sent.
* `Server.reaction_notify`: what a notification does to one address. Either nothing, or the document
  of the address gets a text and the findings that it calls for are published
  (`Server.publication?`), or it is closed and its findings are withdrawn.
* `Session.move_step`: what a message does to a session. It is a notification that reaches the
  server, or it starts the session, stops it or leaves it as it is, and nothing is sent.
-/

namespace MarkupAssist

/-! ### Publications -/

/-- The findings in a document, as they are published for its address. -/
structure Publication where
  diagnostics : List EditorDiagnostic
  version : Option Int
  deriving DecidableEq, Repr

/-- The publication of no findings, which withdraws those before. -/
def Publication.withdrawal : Publication := ⟨[], none⟩

/-- What an announcement publishes for an address. -/
def Announcement.publication? (uri : Uri) : Announcement → Option Publication
  | findings other diagnostics version =>
    if other = uri then some ⟨diagnostics, version⟩ else none
  | log _ => none

/-- What is published for an address, in the order of sending. -/
def published (uri : Uri) (sent : List Announcement) : List Publication :=
  sent.filterMap (Announcement.publication? uri)

theorem published_own (uri : Uri) (diagnostics : List EditorDiagnostic)
    (version : Option Int) :
    published uri [.findings uri diagnostics version] = [⟨diagnostics, version⟩] :=
  List.filterMap_cons_some (if_pos rfl)

theorem published_other {uri other : Uri} (hne : other ≠ uri)
    (diagnostics : List EditorDiagnostic) (version : Option Int) :
    published uri [.findings other diagnostics version] = [] :=
  List.filterMap_cons_none (if_neg hne)

/-! ### Notifications -/

theorem Config.server_afterClient (config : Config) (payload : Json) :
    (config.afterClient payload).server = config.server := by
  unfold afterClient applyClient
  cases payload.collapsed.get? settingsSection with
  | none => rfl
  | some part => cases hpart : config.sectionSettings? part <;> simp [hpart]

namespace Server

/-- The publication that an open document calls for: its findings at its version, if its language
is validated. -/
def publication? (server : Server) (uri : Uri) : Option Publication :=
  (server.documents.get? uri).bind fun document =>
    if server.config.validates document.language then
      some ⟨(server.catalogue.validate document.snapshot).map document.snapshot.showDiagnostic,
        some document.version⟩
    else none

/-- What is announced of a document is the publication that it calls for. -/
theorem findings_eq (server : Server) (uri : Uri) :
    server.findings uri = (server.publication? uri).toList.map fun publication =>
      .findings uri publication.diagnostics publication.version := by
  unfold findings publication?
  cases server.documents.get? uri with
  | none => rfl
  | some document =>
    by_cases hlanguage : server.config.validates document.language = true
    · simp only [hlanguage, if_true, Option.bind_some, Option.toList_some, List.map_cons,
        List.map_nil]
    · simp [hlanguage]

theorem published_findings (server : Server) (uri : Uri) :
    published uri (server.findings uri) = (server.publication? uri).toList := by
  rw [findings_eq]
  cases server.publication? uri with
  | none => rfl
  | some publication => exact published_own _ _ _

theorem published_findings_of_ne {uri other : Uri} (hne : other ≠ uri) (server : Server) :
    published uri (server.findings other) = [] := by
  rw [findings_eq]
  cases server.publication? other with
  | none => rfl
  | some publication => exact published_other hne _ _

/-- A change that is taken: it brings a text, and the document is open and not newer. -/
theorem notify_changed_of_le {server : Server} {uri : Uri} {version : Int} {texts : List String}
    {text : String} {held : OpenDocument} (htext : texts.getLast? = some text)
    (hheld : server.documents.get? uri = some held) (hversion : held.version ≤ version) :
    server.notify (.changed uri version texts) =
      let next := { server with
        documents := server.documents.insert uri { held with content := text, version } }
      (next, next.findings uri) := by
  have hupdate : server.documents.update? uri text version = some _ :=
    OpenDocuments.update?_eq_some_iff.mpr ⟨held, hheld, hversion, rfl⟩
  simp only [notify, htext, Option.bind_some, hupdate]

/-- Any other change is dropped. -/
theorem notify_changed_dropped {server : Server} {uri : Uri} {version : Int} {texts : List String}
    (hdropped : ∀ text held, texts.getLast? = some text → server.documents.get? uri = some held →
      version < held.version) :
    server.notify (.changed uri version texts) = (server, []) := by
  have hnone : (texts.getLast?.bind fun text => server.documents.update? uri text version) =
      none := by
    cases htext : texts.getLast? with
    | none => rfl
    | some text =>
      rw [Option.bind_some, Option.eq_none_iff_forall_ne_some]
      intro next hnext
      obtain ⟨held, hheld, hversion, -⟩ := OpenDocuments.update?_eq_some_iff.mp hnext
      exact absurd (hdropped text held htext hheld) (Int.not_lt.mpr hversion)
  simp only [notify, hnone]

/-- A change is taken or dropped. -/
theorem changed_cases (server : Server) (uri : Uri) (version : Int) (texts : List String) :
    (∃ text held, texts.getLast? = some text ∧ server.documents.get? uri = some held ∧
      held.version ≤ version) ∨
    (∀ text held, texts.getLast? = some text → server.documents.get? uri = some held →
      version < held.version) := by
  by_cases htaken : ∃ text held, texts.getLast? = some text ∧
      server.documents.get? uri = some held ∧ held.version ≤ version
  · exact .inl htaken
  · refine .inr fun text held htext hheld => ?_
    by_contra hversion
    exact htaken ⟨text, held, htext, hheld, Int.not_lt.mp hversion⟩

/-- What no notification changes: the catalogue and the options of the server. The settings of
snippets are not among them. -/
structure SameSetting (server next : Server) : Prop where
  catalogue : next.catalogue = server.catalogue
  options : next.config.server = server.config.server

theorem sameSetting_notify (server : Server) (notification : Notification) :
    SameSetting server (server.notify notification).1 := by
  cases notification with
  | changed uri version texts =>
    simp only [notify]
    split <;> exact ⟨rfl, rfl⟩
  | configured payload => exact ⟨rfl, Config.server_afterClient _ _⟩
  | _ => exact ⟨rfl, rfl⟩

/-- What a notification can do to the document of one address, and what it publishes for it. -/
inductive Reaction (server next : Server) (uri : Uri) :
    Notification → List Publication → Prop
  | idle {notification : Notification}
      (held : next.documents.get? uri = server.documents.get? uri) :
      Reaction server next uri notification []
  | opened {document : OpenDocument} (held : next.documents.get? uri = some document) :
      Reaction server next uri (.opened uri document) (next.publication? uri).toList
  | changed {version : Int} {texts : List String} {old document : OpenDocument}
      (before : server.documents.get? uri = some old)
      (held : next.documents.get? uri = some document)
      (language : document.language = old.language) :
      Reaction server next uri (.changed uri version texts) (next.publication? uri).toList
  | closed (held : next.documents.get? uri = none) :
      Reaction server next uri (.closed uri) [.withdrawal]

/-- **What a notification does to one address.** -/
theorem reaction_notify (server : Server) (notification : Notification) (uri : Uri) :
    Reaction server (server.notify notification).1 uri notification
      (published uri (server.notify notification).2) := by
  cases notification with
  | initialized => exact .idle rfl
  | ignored => exact .idle rfl
  | configured payload => exact .idle rfl
  | opened other document =>
    by_cases hother : other = uri
    · subst hother
      simp only [notify, published_findings]
      refine .opened ?_
      rw [OpenDocuments.get?_insert, if_pos rfl]
    · simp only [notify, published_findings_of_ne hother]
      refine .idle ?_
      rw [OpenDocuments.get?_insert, if_neg (Ne.symm hother)]
  | closed other =>
    by_cases hother : other = uri
    · subst hother
      simp only [notify, published_own]
      refine .closed ?_
      rw [OpenDocuments.get?_erase, if_pos rfl]
    · simp only [notify, published_other hother]
      refine .idle ?_
      rw [OpenDocuments.get?_erase, if_neg (Ne.symm hother)]
  | changed other version texts =>
    rcases changed_cases server other version texts with
      ⟨text, held, htext, hheld, hversion⟩ | hdropped
    · rw [notify_changed_of_le htext hheld hversion]
      by_cases hother : other = uri
      · subst hother
        simp only [published_findings]
        exact .changed hheld ((OpenDocuments.get?_insert _ _ _ _).trans (if_pos rfl)) rfl
      · simp only [published_findings_of_ne hother]
        refine .idle ?_
        rw [OpenDocuments.get?_insert, if_neg (Ne.symm hother)]
    · rw [notify_changed_dropped hdropped]
      exact .idle rfl

end Server

/-! ### Messages -/

/-- The notification that a message is. -/
def Message.notification? (message : Message) : Option Notification :=
  match Method.ofName? message.method with
  | some (.notification decode) =>
    if message.isRequest then none else message.decoded? decode
  | _ => none

namespace Session

/-- What a message can do to a session, and what is sent meanwhile. -/
inductive Move (folderAt : Uri → Folder) (session next : Session) (message : Message) :
    List Announcement → Prop
  | notified {notification : Notification} (running : session.stage = .running)
      (decoded : message.notification? = some notification)
      (result : next = { session with server := (session.server.notify notification).1 }) :
      Move folderAt session next message (session.server.notify notification).2
  | started (root : Option Uri) (options : Option Json) (waiting : session.stage = .waiting)
      (method : Method.ofName? message.method = some .start)
      (result : next = ⟨.running, session.server.start folderAt root options⟩) :
      Move folderAt session next message []
  | stopped (stage : Stage) (ended : stage ≠ .waiting)
      (method : Method.ofName? message.method = some .shutdown ∨
        Method.ofName? message.method = some .exit)
      (result : next = { session with stage }) : Move folderAt session next message []
  | still (result : next = session) : Move folderAt session next message []

/-- **What a message does to a session.** -/
theorem move_step (folderAt : Uri → Folder) (session : Session) (message : Message) :
    session.Move folderAt (session.step folderAt message).1 message
      (session.step folderAt message).2.sent := by
  unfold step
  split
  · exact .still rfl
  split
  · -- the first request
    next hmethod =>
    unfold start
    split
    · exact .still rfl
    next hstage =>
    split
    · exact .still rfl
    split
    · next root options _ => exact .started root options (by simpa using hstage) hmethod rfl
    · exact .still rfl
  · -- the request to stop
    next hmethod =>
    unfold shutdown
    split
    · exact .still rfl
    · simp only [refuse]
      split <;> exact .stopped .stopped (by decide) (.inl hmethod) rfl
  · next hmethod => exact .stopped .ended (by decide) (.inr hmethod) rfl
  · -- requests leave the session as it is
    unfold request
    split
    · exact .still rfl
    split
    · exact .still rfl
    split <;> exact .still rfl
  · -- notifications
    next decode hmethod =>
    unfold notification
    split
    · exact .still rfl
    next hstage =>
    split
    · exact .still rfl
    next hrequest =>
    split
    · next notified hdecoded =>
      refine .notified (by simpa using hstage) ?_ rfl
      simp only [Message.notification?, hmethod, hrequest, hdecoded]
      rfl
    · exact .still rfl
  · split <;> exact .still rfl

/-! ### Runs -/

/-- The session after a number of messages. -/
def after (folderAt : Uri → Folder) (session : Session) (messages : List Message) : Session :=
  messages.foldl (fun session message => (session.step folderAt message).1) session

/-- The messages of a session, each with what comes of it. -/
def transcript (folderAt : Uri → Folder) : Session → List Message → List (Message × Outcome)
  | _, [] => []
  | session, message :: messages =>
    (message, (session.step folderAt message).2) ::
      transcript folderAt (session.step folderAt message).1 messages

/-- What is published for an address in the course of a session. -/
def publications (folderAt : Uri → Folder) (session : Session) (messages : List Message)
    (uri : Uri) : List Publication :=
  (session.transcript folderAt messages).flatMap fun entry => published uri entry.2.sent

theorem publications_cons (folderAt : Uri → Folder) (session : Session) (message : Message)
    (messages : List Message) (uri : Uri) :
    session.publications folderAt (message :: messages) uri =
      published uri (session.step folderAt message).2.sent ++
        (session.step folderAt message).1.publications folderAt messages uri :=
  List.flatMap_cons

theorem publications_append (folderAt : Uri → Folder) (session : Session)
    (messages more : List Message) (uri : Uri) :
    session.publications folderAt (messages ++ more) uri =
      session.publications folderAt messages uri ++
        (session.after folderAt messages).publications folderAt more uri := by
  induction messages generalizing session with
  | nil => rfl
  | cons message messages ih =>
    rw [List.cons_append, publications_cons, publications_cons, ih, List.append_assoc]
    rfl

theorem after_append (folderAt : Uri → Folder) (session : Session) (messages more : List Message) :
    session.after folderAt (messages ++ more) =
      (session.after folderAt messages).after folderAt more :=
  List.foldl_append

/-- A session before its first request. -/
def fresh (catalogue : Catalogue) (config : Config) : Session :=
  { server := { catalogue, config } }

end Session

/-! ### Messages as an editor writes them -/

/-- The first request, without a workspace. -/
def startMessage : Message :=
  ⟨"initialize", some (.record [("capabilities", .record [])]), true⟩

/-- A document is opened. -/
def openMessage (uri : String) (document : OpenDocument) : Message :=
  ⟨"textDocument/didOpen", some (.record [("textDocument", .record
    [("uri", .text uri), ("languageId", .text document.language),
     ("version", .ofInt document.version), ("text", .text document.content)])]), false⟩

/-- A document has a new text. -/
def changeMessage (uri text : String) (version : Int) : Message :=
  ⟨"textDocument/didChange", some (.record
    [("textDocument", .record [("uri", .text uri), ("version", .ofInt version)]),
     ("contentChanges", .array [.record [("text", .text text)]])]), false⟩

/-- A catalogue of one element with a required attribute. -/
def labelledCatalogue : Catalogue :=
  { elements := [("f-row", { attributes := [("label", { isRequired := true })] })] }

end MarkupAssist
