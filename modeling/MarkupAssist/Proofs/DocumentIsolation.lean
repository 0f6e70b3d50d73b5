import MarkupAssist.Proofs.SessionRun

/-!
# Documents do not interfere

All documents of a session share one server: one configuration and one list of open documents. What
an editor sees of one address is nevertheless independent of the messages about other addresses.

* `Session.Agree`: two sessions agree on an address if they are at the same stage and their servers
  have the same catalogue, the same configuration and the same document there.
* `Session.Agree.step`: the same message keeps agreeing sessions in agreement. It publishes the same
  for the address, and a request about the address gets the same reply.
* `Session.Move.agree`: a message that does not concern the address (`Message.concerns`) leaves the
  session in agreement with what it was, and publishes nothing for the address.

So a session is seen at an address as the session of the messages that concern it
(`Session.Agree.observed`), and two sessions with the same such messages are seen alike:
`isolated_of_concerns`.
-/

namespace MarkupAssist

/-! ### What a message is about -/

/-- The address that a request is about. -/
def Request.uri? : Request → Option Uri
  | complete uri _ => some uri
  | hover uri _ => some uri
  | _ => none

/-- The address that a notification is about. -/
def Notification.uri? : Notification → Option Uri
  | opened uri _ => some uri
  | changed uri _ _ => some uri
  | closed uri => some uri
  | _ => none

/-- Whether a notification changes the configuration. -/
def Notification.configures : Notification → Bool
  | configured _ => true
  | _ => false

namespace Message

/-- Whether a message concerns an address: it starts, stops or configures the session, or it is
about the address. -/
def concerns (uri : Uri) (message : Message) : Bool :=
  match Method.ofName? message.method with
  | some (.request decode) =>
    (message.decoded? decode).any fun request => request.uri? == some uri
  | some (.notification decode) =>
    (message.decoded? decode).any fun notification =>
      notification.configures || notification.uri? == some uri
  | some _ => true
  | none => false

/-- Whether a message is a request about an address. -/
def asks (uri : Uri) (message : Message) : Bool :=
  match Method.ofName? message.method with
  | some (.request decode) =>
    message.isRequest &&
      (message.decoded? decode).any fun request => request.uri? == some uri
  | _ => false

theorem concerns_of_notification? {message : Message} {notification : Notification}
    (hdecoded : message.notification? = some notification) (uri : Uri) :
    message.concerns uri = (notification.configures || notification.uri? == some uri) := by
  unfold notification? at hdecoded
  split at hdecoded
  · next decode hmethod =>
    split at hdecoded
    · cases hdecoded
    · simp only [concerns, hmethod, hdecoded, Option.any_some]
  · cases hdecoded

theorem asks_of_not_concerns {uri : Uri} {message : Message}
    (hforeign : message.concerns uri = false) : message.asks uri = false := by
  unfold asks
  split
  · next decode hmethod =>
    simp only [concerns, hmethod] at hforeign
    rw [hforeign, Bool.and_false]
  · rfl

end Message

/-- The replies to the requests about an address, in the order of the requests. -/
def Session.answers (folderAt : Uri → Folder) (session : Session) (messages : List Message)
    (uri : Uri) : List Reply :=
  (session.transcript folderAt messages).filterMap fun entry =>
    if entry.1.asks uri then entry.2.reply else none

/-! ### Servers that agree on an address -/

namespace Server

/-- Two servers that an address cannot tell apart. -/
structure Agree (uri : Uri) (server other : Server) : Prop where
  catalogue : server.catalogue = other.catalogue
  config : server.config = other.config
  document : server.documents.get? uri = other.documents.get? uri

namespace Agree

variable {uri : Uri} {server other : Server} (h : Agree uri server other)

include h

theorem publication? : server.publication? uri = other.publication? uri := by
  unfold Server.publication?
  rw [h.document, h.config, h.catalogue]

theorem complete (place : EditorPosition) :
    server.complete uri place = other.complete uri place := by
  unfold Server.complete
  rw [h.document, h.config, h.catalogue]

theorem hover (place : EditorPosition) : server.hover uri place = other.hover uri place := by
  unfold Server.hover
  rw [h.document, h.catalogue]

theorem start (folderAt : Uri → Folder) (root : Option Uri) (options : Option Json) :
    Agree uri (server.start folderAt root options) (other.start folderAt root options) := by
  refine ⟨h.catalogue, ?_, h.document⟩
  unfold Server.start
  rw [h.config]

theorem respond {request : Request} (hrequest : request.uri? = some uri) :
    Session.respond server request = Session.respond other request := by
  cases request with
  | complete about place =>
    obtain rfl := Option.some.inj hrequest
    exact congrArg Except.ok (h.complete place)
  | hover about place =>
    obtain rfl := Option.some.inj hrequest
    exact congrArg Except.ok (h.hover place)
  | start root options => rfl
  | shutdown => rfl
  | unprovided => rfl

/-- A document that gets the same text in both servers has the same findings published. -/
theorem opened (document : OpenDocument) :
    let next := { server with documents := server.documents.insert uri document }
    let next' := { other with documents := other.documents.insert uri document }
    Agree uri next next' ∧
      published uri (next.findings uri) = published uri (next'.findings uri) := by
  intro next next'
  have hnext : Agree uri next next' := by
    refine ⟨h.catalogue, h.config, ?_⟩
    rw [OpenDocuments.get?_insert, OpenDocuments.get?_insert, if_pos rfl, if_pos rfl]
  refine ⟨hnext, ?_⟩
  rw [published_findings, published_findings, hnext.publication?]

end Agree

/-- A notification about another address, or about none, has no effect on an address. -/
theorem Reaction.idle_of_ne {server next : Server} {uri : Uri} {notification : Notification}
    {now : List Publication} (hreaction : Reaction server next uri notification now)
    (hother : notification.uri? ≠ some uri) :
    next.documents.get? uri = server.documents.get? uri ∧ now = [] := by
  cases hreaction with
  | idle hheld => exact ⟨hheld, rfl⟩
  | opened _ => exact absurd rfl hother
  | changed _ _ _ => exact absurd rfl hother
  | closed _ => exact absurd rfl hother

theorem config_notify {notification : Notification} (hconfigures : notification.configures = false)
    (server : Server) : (server.notify notification).1.config = server.config := by
  cases notification with
  | changed uri version texts =>
    simp only [notify]
    split <;> rfl
  | configured payload => cases hconfigures
  | _ => rfl

theorem agree_notify {notification : Notification} {uri : Uri}
    (hconfigures : notification.configures = false) (hother : notification.uri? ≠ some uri)
    (server : Server) :
    Agree uri (server.notify notification).1 server ∧
      published uri (server.notify notification).2 = [] := by
  -- all that can happen to an address is known; only the configuration needs another look
  obtain ⟨hheld, hnothing⟩ := (server.reaction_notify notification uri).idle_of_ne hother
  have hcatalogue := (server.sameSetting_notify notification).catalogue
  exact ⟨⟨hcatalogue, config_notify hconfigures server, hheld⟩, hnothing⟩

theorem Agree.symm {uri : Uri} {server other : Server} (h : Agree uri server other) :
    Agree uri other server :=
  ⟨h.catalogue.symm, h.config.symm, h.document.symm⟩

theorem Agree.trans {uri : Uri} {server middle other : Server} (h : Agree uri server middle)
    (h' : Agree uri middle other) : Agree uri server other :=
  ⟨h.catalogue.trans h'.catalogue, h.config.trans h'.config, h.document.trans h'.document⟩

/-- **The same notification does the same to an address** in servers that agree on it. -/
theorem Agree.notify {uri : Uri} {server other : Server} (h : Agree uri server other)
    (notification : Notification) :
    Agree uri (server.notify notification).1 (other.notify notification).1 ∧
      published uri (server.notify notification).2 =
        published uri (other.notify notification).2 := by
  by_cases hconfigures : notification.configures = true
  · cases notification with
    | configured payload =>
      refine ⟨⟨h.catalogue, ?_, h.document⟩, rfl⟩
      simp only [Server.notify]
      rw [h.config]
    | _ => cases hconfigures
  have hconfigures' : notification.configures = false := by simpa using hconfigures
  by_cases habout : notification.uri? = some uri
  · cases notification with
    | opened about document =>
      obtain rfl := Option.some.inj habout
      exact h.opened document
    | closed about =>
      obtain rfl := Option.some.inj habout
      refine ⟨⟨h.catalogue, h.config, ?_⟩, rfl⟩
      simp only [Server.notify]
      rw [OpenDocuments.get?_erase, OpenDocuments.get?_erase, if_pos rfl, if_pos rfl]
    | changed about version texts =>
      obtain rfl := Option.some.inj habout
      -- both servers hold the same document, so they take the change or drop it together
      rcases changed_cases server about version texts with
        ⟨text, held, htext, hheld, hversion⟩ | hdropped
      · rw [notify_changed_of_le htext hheld hversion,
          notify_changed_of_le htext (h.document.symm.trans hheld) hversion]
        exact h.opened _
      · have hdropped' := hdropped
        rw [h.document] at hdropped'
        rw [notify_changed_dropped hdropped, notify_changed_dropped hdropped']
        exact ⟨h, rfl⟩
    | initialized => cases habout
    | configured payload => cases habout
    | ignored => cases habout
  · -- neither server is touched
    obtain ⟨hserver, hnothing⟩ := agree_notify hconfigures' habout server
    obtain ⟨hother, hnothing'⟩ := agree_notify hconfigures' habout other
    exact ⟨(hserver.trans h).trans hother.symm, hnothing.trans hnothing'.symm⟩

end Server

/-! ### Sessions that agree on an address -/

namespace Session

/-- Two sessions that an address cannot tell apart. -/
structure Agree (uri : Uri) (session other : Session) : Prop where
  stage : session.stage = other.stage
  server : session.server.Agree uri other.server

/-- What comes of a message is the same for an address: what is published for it, and the reply, if
the message is a request about it. -/
structure SameFor (uri : Uri) (message : Message) (outcome other : Outcome) : Prop where
  shown : published uri outcome.sent = published uri other.sent
  reply : message.asks uri = true → outcome.reply = other.reply

theorem SameFor.refl (uri : Uri) (message : Message) (outcome : Outcome) :
    SameFor uri message outcome outcome :=
  ⟨rfl, fun _ => rfl⟩

variable {uri : Uri} {session other : Session}

theorem Agree.refuse (h : Agree uri session other) (message : Message) (refusal : Refusal) :
    Agree uri (session.refuse message refusal).1 (other.refuse message refusal).1 ∧
      SameFor uri message (session.refuse message refusal).2 (other.refuse message refusal).2 :=
  ⟨h, .refl _ _ _⟩

theorem Agree.start (h : Agree uri session other) (folderAt : Uri → Folder) (message : Message) :
    Agree uri (session.start folderAt message).1 (other.start folderAt message).1 ∧
      SameFor uri message (session.start folderAt message).2
        (other.start folderAt message).2 := by
  unfold Session.start
  rw [h.stage]
  split
  · exact h.refuse message _
  split
  · exact ⟨h, .refl _ _ _⟩
  split
  · next root options _ =>
    have hstart := h.server.start folderAt root options
    refine ⟨⟨rfl, hstart⟩, rfl, fun _ => ?_⟩
    simp only [hstart.config]
  · exact h.refuse message _

theorem Agree.shutdown (h : Agree uri session other) (message : Message) :
    Agree uri (session.shutdown message).1 (other.shutdown message).1 ∧
      SameFor uri message (session.shutdown message).2 (other.shutdown message).2 := by
  unfold Session.shutdown
  rw [h.stage]
  split
  · exact h.refuse message _
  · simp only [Session.refuse]
    split <;> exact ⟨⟨rfl, h.server⟩, .refl _ _ _⟩

/-- Only the replies to requests about the address are the same. -/
theorem Agree.request (h : Agree uri session other) {message : Message}
    {decode : Json → Option Request}
    (hmethod : Method.ofName? message.method = some (.request decode)) :
    Agree uri (session.request message decode).1 (other.request message decode).1 ∧
      SameFor uri message (session.request message decode).2
        (other.request message decode).2 := by
  unfold Session.request
  rw [h.stage]
  split
  · exact h.refuse message _
  split
  · exact ⟨h, .refl _ _ _⟩
  split
  · next request hdecoded =>
    refine ⟨h, rfl, fun hasks => ?_⟩
    have habout : request.uri? = some uri := by
      simp only [Message.asks, hmethod, hdecoded, Option.any_some, Bool.and_eq_true,
        beq_iff_eq] at hasks
      exact hasks.2
    simp only [h.server.respond habout]
  · exact h.refuse message _

theorem Agree.notification (h : Agree uri session other) (message : Message)
    (decode : Json → Option Notification) :
    Agree uri (session.notification message decode).1 (other.notification message decode).1 ∧
      SameFor uri message (session.notification message decode).2
        (other.notification message decode).2 := by
  unfold Session.notification
  rw [h.stage]
  split
  · exact h.refuse message _
  split
  · exact ⟨h, .refl _ _ _⟩
  split
  · next notification _ =>
    obtain ⟨hnext, hpublished⟩ := h.server.notify notification
    exact ⟨⟨rfl, hnext⟩, hpublished, fun _ => rfl⟩
  · exact ⟨h, .refl _ _ _⟩

/-- **The same message does the same to an address** in sessions that agree on it. -/
theorem Agree.step (h : Agree uri session other) (folderAt : Uri → Folder) (message : Message) :
    Agree uri (session.step folderAt message).1 (other.step folderAt message).1 ∧
      SameFor uri message (session.step folderAt message).2
        (other.step folderAt message).2 := by
  unfold Session.step
  rw [h.stage]
  split
  · exact ⟨h, .refl _ _ _⟩
  split
  · exact h.start folderAt message
  · exact h.shutdown message
  · exact ⟨⟨rfl, h.server⟩, .refl _ _ _⟩
  · next hmethod => exact h.request hmethod
  · exact h.notification message _
  · split
    · exact ⟨h, .refl _ _ _⟩
    · exact h.refuse message _

/-- **A message that does not concern an address is not seen there.** -/
theorem Move.agree {folderAt : Uri → Folder} {next : Session} {message : Message}
    {sent : List Announcement} (hmove : session.Move folderAt next message sent)
    (hforeign : message.concerns uri = false) :
    Agree uri next session ∧ published uri sent = [] := by
  cases hmove with
  | @notified notification _ hdecoded hresult =>
    subst hresult
    rw [Message.concerns_of_notification? hdecoded, Bool.or_eq_false_iff] at hforeign
    obtain ⟨hserver, hnothing⟩ :=
      Server.agree_notify hforeign.1 (ne_of_beq_false hforeign.2) session.server
    exact ⟨⟨rfl, hserver⟩, hnothing⟩
  | started _ _ _ hmethod _ => simp [Message.concerns, hmethod] at hforeign
  | stopped _ _ hmethod _ =>
    rcases hmethod with hmethod | hmethod <;> simp [Message.concerns, hmethod] at hforeign
  | still hresult =>
    subst hresult
    exact ⟨⟨rfl, rfl, rfl, rfl⟩, rfl⟩

/-! ### Runs -/

theorem answers_cons (folderAt : Uri → Folder) (session : Session) (message : Message)
    (messages : List Message) (uri : Uri) :
    session.answers folderAt (message :: messages) uri =
      (if message.asks uri then (session.step folderAt message).2.reply else none).toList ++
        (session.step folderAt message).1.answers folderAt messages uri := by
  show List.filterMap _ (_ :: _) = _
  rw [List.filterMap_cons]
  cases (if message.asks uri then (session.step folderAt message).2.reply else none) <;> rfl

/-- **What is seen at an address comes of the messages that concern it.** -/
theorem Agree.observed (h : Agree uri session other) (folderAt : Uri → Folder)
    (messages : List Message) :
    session.answers folderAt messages uri =
        other.answers folderAt (messages.filter (·.concerns uri)) uri ∧
      session.publications folderAt messages uri =
        other.publications folderAt (messages.filter (·.concerns uri)) uri := by
  induction messages generalizing session other with
  | nil => exact ⟨rfl, rfl⟩
  | cons message messages ih =>
    rw [answers_cons, publications_cons]
    by_cases hconcerns : message.concerns uri = true
    · rw [List.filter_cons_of_pos hconcerns, answers_cons, publications_cons]
      obtain ⟨hnext, hsame⟩ := h.step folderAt message
      obtain ⟨hanswers, hpublications⟩ := ih hnext
      rw [hanswers, hpublications, hsame.shown]
      refine ⟨?_, rfl⟩
      by_cases hasks : message.asks uri = true
      · rw [hsame.reply hasks]
      · rw [if_neg hasks, if_neg hasks]
    · rw [List.filter_cons_of_neg hconcerns]
      have hforeign : message.concerns uri = false := by simpa using hconcerns
      obtain ⟨hkept, hnothing⟩ := (session.move_step folderAt message).agree hforeign
      have hnext : Agree uri (session.step folderAt message).1 other :=
        ⟨hkept.stage.trans h.stage, hkept.server.trans h.server⟩
      obtain ⟨hanswers, hpublications⟩ := ih hnext
      rw [Message.asks_of_not_concerns hforeign, hnothing, hanswers, hpublications]
      exact ⟨rfl, rfl⟩

end Session

/-- **Documents do not interfere.** Two sessions that start alike and get the same messages that
start, stop or configure them or are about an address give the same answers about that address and
publish the same for it, whatever comes in between about other addresses. -/
theorem isolated_of_concerns (folderAt : Uri → Folder) (catalogue : Catalogue) (config : Config)
    (uri : Uri) {messages others : List Message}
    (hsame : messages.filter (·.concerns uri) = others.filter (·.concerns uri)) :
    let start := Session.fresh catalogue config
    start.answers folderAt messages uri = start.answers folderAt others uri ∧
      start.publications folderAt messages uri = start.publications folderAt others uri := by
  intro start
  have hstart : Session.Agree uri start start := ⟨rfl, rfl, rfl, rfl⟩
  obtain ⟨hanswers, hpublications⟩ := hstart.observed folderAt messages
  obtain ⟨hanswers', hpublications'⟩ := hstart.observed folderAt others
  rw [hanswers, hanswers', hpublications, hpublications', hsame]
  exact ⟨rfl, rfl⟩

/-- Documentation is asked for at a place of a document. -/
def hoverMessage (uri : String) (line character : Nat) : Message :=
  ⟨"textDocument/hover", some (.record
    [("textDocument", .record [("uri", .text uri)]),
     ("position", .record [("line", .ofNat line), ("character", .ofNat character)])]), true⟩

/-- A page is opened and asked about. -/
def quietSession : List Message :=
  [startMessage, openMessage "file:///page.vue" ⟨"<f-row>", 1, "vue"⟩,
   hoverMessage "file:///page.vue" 0 3]

/-- The same, with a note that is opened, changed and asked about in between. -/
def busySession : List Message :=
  [startMessage, openMessage "file:///note.txt" ⟨"<f-row>", 7, "vue"⟩,
   openMessage "file:///page.vue" ⟨"<f-row>", 1, "vue"⟩,
   changeMessage "file:///note.txt" "plain" 8, hoverMessage "file:///note.txt" 0 3,
   hoverMessage "file:///page.vue" 0 3]

/-- The page gets the answer it gets without the note, and one publication. -/
theorem isolated_of_concerns_busySession :
    let start := Session.fresh labelledCatalogue {}
    busySession.filter (·.concerns pageUri) = quietSession.filter (·.concerns pageUri) ∧
    start.answers (fun _ => []) busySession pageUri =
      [.ok (.hover ⟨"### f-row\n\n---\n\n#### label (string) (required)\n\n\n",
        some ⟨⟨0, 1⟩, ⟨0, 6⟩⟩⟩)] ∧
    (start.publications (fun _ => []) busySession pageUri).map (·.version) = [some 1] := by
  intro start
  have hsame : busySession.filter (·.concerns pageUri) = quietSession.filter (·.concerns pageUri) :=
    rfl
  obtain ⟨hanswers, hpublications⟩ :=
    isolated_of_concerns (fun _ => []) labelledCatalogue {} pageUri hsame
  refine ⟨hsame, hanswers.trans (by rfl), ?_⟩
  rw [hpublications]
  decide +kernel

end MarkupAssist
