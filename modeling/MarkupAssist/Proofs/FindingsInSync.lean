import MarkupAssist.Proofs.SessionRun

/-!
# Published findings keep up with the documents

An editor shows the findings that were published last for a document. The server publishes when a
text arrives and withdraws when a document is closed, and it never looks at what it published
before. Still the editor is never out of date:

* `InSync`: an open document of a validated language shows its findings at its version, and a
  document that is not open shows nothing. Every message keeps this (`InSync.move`), so every
  session does (`InSync.after`).
* `Settled`: a document of another language shows nothing either, unless it replaced a document
  that was open under its address. Nothing is withdrawn then, so the findings of the document before
  stay. Every message that does not open an open document keeps this (`Settled.move`).

`findings_in_sync` puts both together for the sessions that start with no document.
-/

namespace MarkupAssist

/-! ### What a document calls for -/

namespace Server

theorem publication?_of_held {server : Server} {uri : Uri} {document : OpenDocument}
    (hheld : server.documents.get? uri = some document) :
    server.publication? uri =
      if server.config.validates document.language then
        some ⟨(server.catalogue.validate document.snapshot).map document.snapshot.showDiagnostic,
          some document.version⟩
      else none := by
  rw [publication?, hheld, Option.bind_some]

theorem publication?_of_closed {server : Server} {uri : Uri}
    (hclosed : server.documents.get? uri = none) : server.publication? uri = none := by
  rw [publication?, hclosed, Option.bind_none]

theorem isSome_publication? {server : Server} {uri : Uri} {document : OpenDocument}
    (hheld : server.documents.get? uri = some document) :
    (server.publication? uri).isSome = server.config.validates document.language := by
  rw [publication?_of_held hheld]
  cases server.config.validates document.language <;> rfl

theorem SameSetting.validates {server next : Server} (h : SameSetting server next)
    (language : String) : next.config.validates language = server.config.validates language := by
  rw [Config.validates, h.options, Config.validates]

/-- A document that is left alone calls for the same. -/
theorem SameSetting.publication? {server next : Server} (h : SameSetting server next) {uri : Uri}
    (hheld : next.documents.get? uri = server.documents.get? uri) :
    next.publication? uri = server.publication? uri := by
  unfold Server.publication?
  simp only [hheld, h.validates, h.catalogue]

end Server

/-! ### Open documents of validated languages -/

/-- What was published last shows no findings. -/
def Cleared (last : Option Publication) : Prop :=
  last = none ∨ last = some .withdrawal

/-- What was published last for an address fits what the session knows of it. -/
structure InSync (session : Session) (uri : Uri) (last : Option Publication) : Prop where
  /-- Before the first request no document is open. The request can change the languages that are
  validated, so this is needed there. -/
  waiting : session.stage = .waiting → session.server.documents.get? uri = none
  shown : ∀ publication, session.server.publication? uri = some publication →
    last = some publication
  cleared : session.server.documents.get? uri = none → Cleared last

/-- A document that is not open calls for nothing. -/
theorem InSync.of_closed {session : Session} {uri : Uri} {last : Option Publication}
    (hclosed : session.server.documents.get? uri = none) (hcleared : Cleared last) :
    InSync session uri last where
  waiting := fun _ => hclosed
  shown := fun _ hshown =>
    absurd ((Server.publication?_of_closed hclosed).symm.trans hshown) (by simp)
  cleared := fun _ => hcleared

/-- A document that gets a text shows what it calls for. -/
theorem InSync.of_published {session : Session} {uri : Uri} {document : OpenDocument}
    {last : Option Publication} (hstage : session.stage = .running)
    (hheld : session.server.documents.get? uri = some document) :
    InSync session uri ((session.server.publication? uri).toList.getLast?.or last) where
  waiting := fun hwaiting => absurd (hstage.symm.trans hwaiting) (by decide)
  shown := fun publication hpublication => by rw [hpublication]; rfl
  cleared := fun hclosed => absurd (hheld.symm.trans hclosed) (by simp)

theorem InSync.react {session : Session} {uri : Uri} {last : Option Publication}
    (h : InSync session uri last) (hrunning : session.stage = .running) {next : Server}
    (hsame : session.server.SameSetting next) {notification : Notification}
    {now : List Publication} (hreaction : session.server.Reaction next uri notification now) :
    InSync { session with server := next } uri (now.getLast?.or last) := by
  cases hreaction with
  | idle hheld =>
    refine ⟨fun hwaiting => hheld.trans (h.waiting hwaiting), fun publication hshown => ?_,
      fun hclosed => h.cleared (hheld.symm.trans hclosed)⟩
    exact h.shown publication ((hsame.publication? hheld).symm.trans hshown)
  | opened hheld => exact .of_published hrunning hheld
  | changed _ hheld _ => exact .of_published hrunning hheld
  | closed hheld => exact .of_closed hheld (.inr rfl)

/-- **One message keeps what is shown in sync.** -/
theorem InSync.move {session next : Session} {uri : Uri} {last : Option Publication}
    (h : InSync session uri last) {folderAt : Uri → Folder} {message : Message}
    {sent : List Announcement} (hmove : session.Move folderAt next message sent) :
    InSync next uri ((published uri sent).getLast?.or last) := by
  cases hmove with
  | notified hrunning _ hresult =>
    subst hresult
    exact h.react hrunning (Server.sameSetting_notify _ _) (Server.reaction_notify _ _ _)
  | started root options hwaiting _ hresult =>
    -- nothing is open yet, whatever languages are validated from now on
    subst hresult
    have hclosed : session.server.documents.get? uri = none := h.waiting hwaiting
    exact .of_closed hclosed (h.cleared hclosed)
  | stopped stage hended _ hresult =>
    subst hresult
    exact ⟨fun hwaiting => absurd hwaiting hended, h.shown, h.cleared⟩
  | still hresult =>
    subst hresult
    exact h

theorem InSync.after {session : Session} {uri : Uri} {last : Option Publication}
    (h : InSync session uri last) (folderAt : Uri → Folder) (messages : List Message) :
    InSync (session.after folderAt messages) uri
      ((session.publications folderAt messages uri).getLast?.or last) := by
  induction messages generalizing session last with
  | nil => exact h
  | cons message messages ih =>
    rw [Session.publications_cons, List.getLast?_append, Option.or_assoc]
    exact ih (h.move (session.move_step folderAt message))

/-! ### Open documents of other languages -/

/-- A message opens a document under an address. -/
def Session.Opens (session : Session) (message : Message) (uri : Uri) : Prop :=
  session.stage = .running ∧ ∃ document, message.notification? = some (.opened uri document)

/-- None of the messages opens a document under an address while one is open there. -/
def Session.NeverReopens (folderAt : Uri → Folder) (session : Session) (messages : List Message)
    (uri : Uri) : Prop :=
  ∀ earlier message later, messages = earlier ++ message :: later →
    (session.after folderAt earlier).Opens message uri →
    (session.after folderAt earlier).server.documents.get? uri = none

/-- An address shows no findings, or those of a document of a validated language. -/
def Settled (session : Session) (uri : Uri) (last : Option Publication) : Prop :=
  Cleared last ∨ (session.server.publication? uri).isSome

/-- A document that gets a text is settled if nothing is shown for it that it does not call for. -/
theorem Settled.of_published {session : Session} {uri : Uri} {last : Option Publication}
    (h : (session.server.publication? uri) = none → Cleared last) :
    Settled session uri ((session.server.publication? uri).toList.getLast?.or last) := by
  cases hpublication : session.server.publication? uri with
  | none => exact .inl (h hpublication)
  | some publication => exact .inr (by rw [hpublication]; rfl)

theorem Settled.react {session : Session} {uri : Uri} {last : Option Publication}
    (hsettled : Settled session uri last) (hsync : InSync session uri last) {next : Server}
    (hsame : session.server.SameSetting next) {notification : Notification}
    {now : List Publication} (hreaction : session.server.Reaction next uri notification now)
    (hopens : ∀ document, notification = .opened uri document →
      session.server.documents.get? uri = none) :
    Settled { session with server := next } uri (now.getLast?.or last) := by
  cases hreaction with
  | idle hheld =>
    refine hsettled.imp id fun hsome => ?_
    show (next.publication? uri).isSome
    rwa [hsame.publication? hheld]
  | opened hheld => exact .of_published fun _ => hsync.cleared (hopens _ rfl)
  | changed hbefore hheld hlanguage =>
    -- the language stays, so a document that now calls for nothing did so before
    refine .of_published fun hnone => hsettled.resolve_right fun hsome => ?_
    rw [Server.isSome_publication? hbefore, ← hsame.validates, ← hlanguage,
      ← Server.isSome_publication? hheld] at hsome
    exact absurd hnone (Option.isSome_iff_ne_none.mp hsome)
  | closed hheld => exact .inl (.inr rfl)

/-- **One message settles what it touches**, unless it opens a document that is open. -/
theorem Settled.move {session next : Session} {uri : Uri} {last : Option Publication}
    (hsettled : Settled session uri last) (hsync : InSync session uri last)
    {folderAt : Uri → Folder} {message : Message} {sent : List Announcement}
    (hmove : session.Move folderAt next message sent)
    (hopens : session.Opens message uri → session.server.documents.get? uri = none) :
    Settled next uri ((published uri sent).getLast?.or last) := by
  cases hmove with
  | notified hrunning hdecoded hresult =>
    subst hresult
    refine hsettled.react hsync (Server.sameSetting_notify _ _) (Server.reaction_notify _ _ _) ?_
    rintro document rfl
    exact hopens ⟨hrunning, document, hdecoded⟩
  | started _ _ hwaiting _ _ => exact .inl (hsync.cleared (hsync.waiting hwaiting))
  | stopped _ _ _ hresult =>
    subst hresult
    exact hsettled
  | still hresult =>
    subst hresult
    exact hsettled

theorem Settled.after {session : Session} {uri : Uri} {last : Option Publication}
    (hsettled : Settled session uri last) (hsync : InSync session uri last)
    {folderAt : Uri → Folder} {messages : List Message}
    (hnever : session.NeverReopens folderAt messages uri) :
    Settled (session.after folderAt messages) uri
      ((session.publications folderAt messages uri).getLast?.or last) := by
  induction messages generalizing session last with
  | nil => exact hsettled
  | cons message messages ih =>
    rw [Session.publications_cons, List.getLast?_append, Option.or_assoc]
    have hmove := session.move_step folderAt message
    refine ih (hsettled.move hsync hmove (hnever [] message messages rfl)) (hsync.move hmove) ?_
    intro earlier next later hsplit
    exact hnever (message :: earlier) next later (congrArg (message :: ·) hsplit)

/-! ### Whole sessions -/

theorem Session.Move.catalogue {folderAt : Uri → Folder} {session next : Session}
    {message : Message} {sent : List Announcement}
    (hmove : session.Move folderAt next message sent) :
    next.server.catalogue = session.server.catalogue := by
  cases hmove with
  | notified _ _ hresult => rw [hresult, (Server.sameSetting_notify _ _).catalogue]
  | started _ _ _ _ hresult =>
    rw [hresult]
    rfl
  | stopped _ _ _ hresult => rw [hresult]
  | still hresult => rw [hresult]

theorem Session.catalogue_after (folderAt : Uri → Folder) (session : Session)
    (messages : List Message) :
    (session.after folderAt messages).server.catalogue = session.server.catalogue := by
  induction messages generalizing session with
  | nil => rfl
  | cons message messages ih => exact (ih _).trans (session.move_step folderAt message).catalogue

/-- **The editor is never out of date.** After any messages, an open document of a validated
language shows exactly its findings, at its version. A document that is not open shows nothing. A
document of another language shows nothing, if since some time when it was not open it has not been
opened again while it was open. -/
theorem findings_in_sync (folderAt : Uri → Folder) (catalogue : Catalogue) (config : Config)
    (messages : List Message) (uri : Uri) :
    let start := Session.fresh catalogue config
    let server := (start.after folderAt messages).server
    let last := (start.publications folderAt messages uri).getLast?
    (∀ document, server.documents.get? uri = some document →
      server.config.validates document.language = true →
      last = some ⟨(catalogue.validate document.snapshot).map document.snapshot.showDiagnostic,
        some document.version⟩) ∧
    (server.documents.get? uri = none → last = none ∨ last = some ⟨[], none⟩) ∧
    (∀ document, server.documents.get? uri = some document →
      server.config.validates document.language = false →
      ∀ earlier later, messages = earlier ++ later →
        (start.after folderAt earlier).server.documents.get? uri = none →
        (start.after folderAt earlier).NeverReopens folderAt later uri →
        last = none ∨ last = some ⟨[], none⟩) := by
  intro start server last
  have hsync : ∀ messages, InSync (start.after folderAt messages) uri
      (start.publications folderAt messages uri).getLast? := by
    intro messages
    have hstart : InSync start uri none := .of_closed rfl (.inl rfl)
    have hafter := hstart.after folderAt messages
    rwa [Option.or_none] at hafter
  have hcatalogue : server.catalogue = catalogue := start.catalogue_after folderAt messages
  refine ⟨fun document hheld hlanguage => ?_, (hsync messages).cleared, ?_⟩
  · refine (hsync messages).shown _ ?_
    rw [Server.publication?_of_held hheld, if_pos hlanguage]
    show some (Publication.mk ((server.catalogue.validate _).map _) _) = _
    rw [hcatalogue]
  · rintro document hheld hlanguage earlier later rfl hclosed hnever
    have hsettled : Settled (start.after folderAt earlier) uri
        (start.publications folderAt earlier uri).getLast? :=
      .inl ((hsync earlier).cleared hclosed)
    have hafter := hsettled.after (hsync earlier) hnever
    rw [← List.getLast?_append, ← Session.publications_append, ← Session.after_append] at hafter
    refine hafter.resolve_right fun hsome => ?_
    rw [Server.isSome_publication? hheld] at hsome
    exact absurd (hlanguage.symm.trans hsome) (by decide)

/-- A page is opened, changed, and sent a change that is too old. -/
def pageSession : List Message :=
  [startMessage, openMessage "file:///page.vue" ⟨"<f-row>", 1, "vue"⟩,
   changeMessage "file:///page.vue" "a\n<f-row label>" 3,
   changeMessage "file:///page.vue" "old" 2]

/-- The address of a draft. -/
def draftUri : Uri := ⟨"untitled".toList, none, "draft".toList, none, none⟩

/-- The page shows the finding of its last text, at the version of that text. The note, which is
not validated, shows nothing, and neither does a draft that is not open. -/
theorem findings_in_sync_pageSession :
    let messages := pageSession ++ [openMessage "file:///note.txt" ⟨"<f-row>", 1, "plain"⟩]
    let shown (uri : Uri) :=
      ((Session.fresh labelledCatalogue {}).publications (fun _ => []) messages uri).getLast?
    let range : EditorRange := ⟨⟨1, 7⟩, ⟨1, 12⟩⟩
    shown pageUri = some ⟨[⟨range, .error, "blank-attribute", "flow", "label cannot be blank",
      [⟨range, "Blank value not allowed"⟩]⟩], some 3⟩ ∧
    (shown noteUri = none ∨ shown noteUri = some ⟨[], none⟩) ∧
    (shown draftUri = none ∨ shown draftUri = some ⟨[], none⟩) := by
  intro messages shown range
  have hsync := findings_in_sync (fun _ => []) labelledCatalogue {} messages
  refine ⟨?_, ?_, (hsync draftUri).2.1 (by decide +kernel)⟩
  · refine ((hsync pageUri).1 ⟨"a\n<f-row label>", 3, "vue"⟩ ?_ ?_).trans ?_ <;> decide +kernel
  · refine (hsync noteUri).2.2 ⟨"<f-row>", 1, "plain"⟩ (by decide +kernel) (by decide +kernel)
      pageSession [openMessage "file:///note.txt" ⟨"<f-row>", 1, "plain"⟩] rfl
      (by decide +kernel) ?_
    intro earlier message later hsplit _
    -- the note is opened by the only message there is
    obtain rfl : earlier = [] := by
      cases earlier with
      | nil => rfl
      | cons first earlier => simp at hsplit
    decide +kernel

end MarkupAssist
