import MarkupAssist.Proofs.CodeUnits
import MarkupAssist.Proofs.FindingsInSync
import MarkupAssist.Proofs.HoverAgreement

/-!
# What published ranges denote

A finding is published with a range that the editor reads in 16-bit units. On its way the range has
been a place in the text that was scanned, then a pair of positions, then a pair of places of the
editor. At its end stands the text that the finding is about:

* `Document.unitOffset_toEditor`: a position on a line of the document is as many units into the
  document as the text before it has;
* `Document.unitsIn_toEditorRange`: so the units between the ends of a range are those of its text;
* `Document.Holds`: a range that lies on lines of the document and holds a given text. The range of
  a piece of text does (`Document.holds_rangeBetween`), unless the piece starts or ends inside a
  line break. Tags start and end with a bracket (`holds_occurrence`), attributes start with a
  character of their name and end with no blank (`holds_attribute`), so none of them does that.

`editor_ranges_denote_text` follows a finding through the server.
-/

namespace MarkupAssist

open Text Markup

namespace Document

/-! ### Units of a document -/

/-- The text in front of a line. -/
def textAbove (doc : Document) (line : Nat) : List Char :=
  doc.chars.take (doc.lineStart line)

/-- The number of units of the document in front of a place of an editor. -/
def unitOffset (doc : Document) (q : EditorPosition) : Nat :=
  (units (doc.textAbove q.line)).length + q.character

/-- The units of the document between the two ends of a range of an editor. -/
def unitsIn (doc : Document) (r : EditorRange) : List UInt16 :=
  ((units doc.chars).take (doc.unitOffset r.stop)).drop (doc.unitOffset r.start)

variable {doc : Document}

/-- The text before a position is what stands above its line and what stands before it on the
line. -/
theorem textAbove_append_textBefore {p : Position} (hp : p.line < doc.lineCount) :
    doc.textAbove p.line ++ doc.textBefore p = doc.textUntil p := by
  have huntil := textUntil_eq_unlines hp
  have habove : doc.textAbove p.line = unlines (doc.rawLines.take p.line) := by
    rw [textAbove, lineStart_eq, textUntil_append_textFrom doc p, huntil, List.append_assoc,
      List.take_left]
  rw [habove, huntil]

/-- **A position is as many units into the document as the text before it has.** -/
theorem unitOffset_toEditor {p : Position} (hp : p.line < doc.lineCount) :
    doc.unitOffset (doc.toEditor p) = (units (doc.textUntil p)).length := by
  show (units (doc.textAbove p.line)).length + size utf16Width (doc.textBefore p) = _
  rw [← length_units, ← List.length_append, ← units_append, textAbove_append_textBefore hp]

/-- **The units in a range of an editor are those of the text in the range.** -/
theorem unitsIn_toEditorRange {r : Range} (hstart : r.start.line < doc.lineCount)
    (hstop : r.stop.line < doc.lineCount) (hle : r.start ≤ r.stop) :
    doc.unitsIn (doc.toEditorRange r) = units (doc.textInRange r) := by
  show ((units doc.chars).take (doc.unitOffset (doc.toEditor r.stop))).drop
    (doc.unitOffset (doc.toEditor r.start)) = _
  rw [unitOffset_toEditor hstart, unitOffset_toEditor hstop]
  exact units_between (offsetAt_mono hle) doc.chars

/-! ### Ranges of pieces of text -/

/-- A range that lies on lines of the document and holds a text. -/
structure Holds (doc : Document) (r : Range) (text : List Char) : Prop where
  start_line : r.start.line < doc.lineCount
  stop_line : r.stop.line < doc.lineCount
  ordered : r.start ≤ r.stop
  text_eq : doc.textInRange r = text

theorem Holds.unitsIn_eq {r : Range} {text : List Char} (h : doc.Holds r text) :
    doc.unitsIn (doc.toEditorRange r) = units text := by
  rw [unitsIn_toEditorRange h.start_line h.stop_line h.ordered, h.text_eq]

/-- **The range of a piece of text holds the piece**, unless it starts or ends inside a line
break. -/
theorem holds_rangeBetween {front text back : List Char}
    (hchars : doc.chars = front ++ (text ++ back)) (hne : text ≠ [])
    (hhead : text.head? ≠ some '\n') (hlast : text.getLast? ≠ some '\r') :
    doc.Holds (doc.rangeBetween front.length (front.length + text.length)) text := by
  have hlength : front.length + text.length ≤ doc.chars.length := by
    rw [hchars, ← List.append_assoc, List.length_append, List.length_append]
    exact Nat.le_add_right _ _
  have hpos : 0 < text.length := List.length_pos_iff.mpr hne
  obtain ⟨hstart, hstop⟩ := offsetAt_rangeBetween hchars hne hhead hlast
  refine ⟨doc.line_positionAt_lt _, doc.line_positionAt_lt _, ?_, ?_⟩
  · exact Position.le_of_lt (positionAt_lt (by omega) hlength)
  · rw [textInRange, hstart, hstop, hchars, ← List.append_assoc, ← List.length_append,
      List.take_left, List.drop_left]

end Document

/-! ### Tags and attributes -/

section Occurrences

variable {doc : Document} {catalogue : Catalogue} {o : Occurrence}

/-- A tag starts and ends with a bracket, so its range is its text. -/
theorem holds_occurrence (ho : o ∈ doc.occurrences catalogue) :
    doc.Holds o.range o.rawText.toList := by
  obtain ⟨m, pre, body, rest, rfl, -, hbody, hoffset, hchars⟩ := mem_occurrences ho
  have htext : m.text = ('<' :: (m.name ++ body)) ++ ['>'] := by
    rw [TagMatch.text, hbody, List.cons_append, List.append_assoc]
  have hplace : doc.chars = pre ++ (m.text ++ rest) := by
    rw [hchars, htext]
    simp
  have hholds := Document.holds_rangeBetween hplace (by simp [htext]) (by simp [htext])
    (by rw [htext, List.getLast?_concat]; decide)
  rw [← hoffset] at hholds
  rwa [Document.occurrence, String.toList_ofList]

/-- The text of an attribute starts with no line feed and ends with no carriage return. -/
theorem Markup.AttributeText.not_in_break {name text : List Char} {value : Option (List Char)}
    (h : AttributeText name text value) (hne : name ≠ [])
    (hname : ∀ c ∈ name, isAttributeChar c = true) :
    text ≠ [] ∧ text.head? ≠ some '\n' ∧ text.getLast? ≠ some '\r' := by
  have hblank : ∀ c ∈ name, Text.isBlank c = false := fun c hc =>
    isBlank_of_isAttributeChar (hname c hc)
  have hhead : name.head? ≠ some '\n' := fun hfeed =>
    absurd (hblank '\n' (List.mem_of_mem_head? hfeed)) (by decide)
  cases h with
  | bare =>
    refine ⟨hne, hhead, fun hreturn => ?_⟩
    exact absurd (hblank '\r' (List.mem_of_getLast? hreturn)) (by decide)
  | @assigned left right raw value _ _ hvalue =>
    refine ⟨by simp, ?_, ?_⟩
    · rwa [List.head?_append_of_ne_nil _ hne]
    · -- the value ends the text, and it ends with no blank
      obtain ⟨most, last, rfl, hlast⟩ := hvalue.exists_last
      have htext : name ++ (left ++ '=' :: (right ++ (most ++ [last]))) =
          (name ++ (left ++ '=' :: (right ++ most))) ++ [last] := by simp
      rw [htext, List.getLast?_concat]
      intro hreturn
      rw [Option.some.inj hreturn] at hlast
      exact absurd hlast (by decide)

theorem holds_attribute (ho : o ∈ doc.occurrences catalogue) {a : AttributeOccurrence}
    (ha : a ∈ o.attributes) : doc.Holds a.range a.rawText.toList := by
  obtain ⟨m, pre, body, rest, rfl, -, hbody, hoffset, hchars⟩ := mem_occurrences ho
  obtain ⟨found, hfound, front, back, hfront, rfl⟩ := mem_attributes ha
  obtain ⟨hne, hname, hshape⟩ := attributeText_of_mem hfound
  obtain ⟨hnonempty, hhead, hlast⟩ := hshape.not_in_break hne hname
  -- the body of the tag is cut at the attribute, and with it the document
  have hplace : doc.chars =
      (pre ++ '<' :: (m.name ++ front)) ++ (found.text ++ (back ++ rest)) := by
    have hbody' : body ++ '>' :: rest = m.body ++ rest := by
      rw [hbody, List.append_assoc, List.singleton_append]
    rw [hchars, List.append_assoc m.name, hbody', hfront]
    simp
  have hlength : (pre ++ '<' :: (m.name ++ front)).length =
      m.offset + 1 + m.name.length + front.length := by
    simp only [hoffset, List.length_append, List.length_cons]
    omega
  have hholds := Document.holds_rangeBetween hplace hnonempty hhead hlast
  rw [hlength] at hholds
  rwa [String.toList_ofList]

/-- A finding is about a required attribute that a tag lacks, or about one that is blank. -/
theorem mem_validate {d : Diagnostic} (hd : d ∈ catalogue.validate doc) :
    ∃ o ∈ doc.occurrences catalogue, ∃ name,
      (o.attribute? name = none ∧ d = .missing o.range name) ∨
      (∃ a, o.attribute? name = some a ∧ a.isBlank = true ∧ d = .blank a.range name) := by
  obtain ⟨o, ho, hd⟩ := List.mem_flatMap.mp hd
  refine ⟨o, ho, ?_⟩
  unfold Catalogue.faults at hd
  split at hd
  · obtain ⟨required, -, hfault⟩ := List.mem_filterMap.mp hd
    refine ⟨required.1, ?_⟩
    unfold Occurrence.fault? at hfault
    split at hfault
    · next hnone => exact .inl ⟨hnone, (Option.some.inj hfault).symm⟩
    · next a hsome =>
      split at hfault
      · cases hfault
      split at hfault
      · next hblank => exact .inr ⟨a, hsome, hblank, (Option.some.inj hfault).symm⟩
      · cases hfault
  · cases hd

theorem mem_of_attribute? {name : String} {a : AttributeOccurrence}
    (h : o.attribute? name = some a) : a ∈ o.attributes :=
  List.mem_of_find?_eq_some h

end Occurrences

/-! ### Published findings -/

/-- A published finding has the range of the tag that lacks an attribute, or of the attribute that
is blank, and the units in that range are the text of the tag or of the attribute. Its explanations
have the same range. -/
def EditorDiagnostic.Denotes (d : EditorDiagnostic) (doc : Document) (o : Occurrence) : Prop :=
  (∀ note ∈ d.related, note.range = d.range) ∧ ∃ name,
    (d.code = "missing-attribute" ∧ d.message = name ++ " is required" ∧
      o.attribute? name = none ∧ d.range = doc.toEditorRange o.range ∧
      doc.unitsIn d.range = units o.rawText.toList) ∨
    (d.code = "blank-attribute" ∧ d.message = name ++ " cannot be blank" ∧
      ∃ a, o.attribute? name = some a ∧ a.isBlank = true ∧
        d.range = doc.toEditorRange a.range ∧ doc.unitsIn d.range = units a.rawText.toList)

theorem exists_denotes {doc : Document} {catalogue : Catalogue} {d : Diagnostic}
    (hd : d ∈ catalogue.validate doc) :
    ∃ o ∈ doc.occurrences catalogue, (doc.showDiagnostic d).Denotes doc o := by
  obtain ⟨o, ho, name, ⟨hnone, rfl⟩ | ⟨a, hsome, hblank, rfl⟩⟩ := mem_validate hd
  · refine ⟨o, ho, ?_, name, .inl ⟨rfl, rfl, hnone, rfl, (holds_occurrence ho).unitsIn_eq⟩⟩
    exact List.forall_mem_singleton.mpr rfl
  · have hholds := holds_attribute ho (mem_of_attribute? hsome)
    refine ⟨o, ho, ?_, name, .inr ⟨rfl, rfl, a, hsome, hblank, rfl, hholds.unitsIn_eq⟩⟩
    exact List.forall_mem_singleton.mpr rfl

/-- A publication that is not a withdrawal has the findings of the document that calls for it. -/
theorem Server.mem_publication? {server : Server} {uri : Uri} {document : OpenDocument}
    (hheld : server.documents.get? uri = some document) {publication : Publication}
    (hpublication : publication ∈ (server.publication? uri).toList) {d : EditorDiagnostic}
    (hd : d ∈ publication.diagnostics) :
    ∃ found ∈ server.catalogue.validate document.snapshot,
      d = document.snapshot.showDiagnostic found := by
  rw [Option.mem_toList, publication?_of_held hheld] at hpublication
  split at hpublication
  · obtain rfl := Option.some.inj hpublication
    obtain ⟨found, hfound, rfl⟩ := List.mem_map.mp hd
    exact ⟨found, hfound, rfl⟩
  · cases hpublication

/-- What a notification publishes for an address are findings in the document that is open there
from now on. -/
theorem Server.Reaction.mem_findings {server next : Server} {uri : Uri}
    {notification : Notification} {now : List Publication}
    (hreaction : Reaction server next uri notification now) {publication : Publication}
    (hpublication : publication ∈ now) {d : EditorDiagnostic} (hd : d ∈ publication.diagnostics) :
    ∃ document, next.documents.get? uri = some document ∧
      ∃ found ∈ next.catalogue.validate document.snapshot,
        d = document.snapshot.showDiagnostic found := by
  cases hreaction with
  | idle _ => cases hpublication
  | opened hheld => exact ⟨_, hheld, Server.mem_publication? hheld hpublication hd⟩
  | changed _ hheld _ => exact ⟨_, hheld, Server.mem_publication? hheld hpublication hd⟩
  | closed _ =>
    -- a withdrawal has no findings
    obtain rfl := List.mem_singleton.mp hpublication
    cases hd

theorem Session.Move.mem_findings {folderAt : Uri → Folder} {session next : Session}
    {message : Message} {sent : List Announcement}
    (hmove : session.Move folderAt next message sent) {uri : Uri} {publication : Publication}
    (hpublication : publication ∈ published uri sent) {d : EditorDiagnostic}
    (hd : d ∈ publication.diagnostics) :
    ∃ document, next.server.documents.get? uri = some document ∧
      ∃ found ∈ session.server.catalogue.validate document.snapshot,
        d = document.snapshot.showDiagnostic found := by
  cases hmove with
  | notified _ _ hresult =>
    subst hresult
    rw [← (Server.sameSetting_notify _ _).catalogue]
    exact (Server.reaction_notify _ _ _).mem_findings hpublication hd
  | started => cases hpublication
  | stopped => cases hpublication
  | still => cases hpublication

/-- **Ranges that are sent to an editor denote text.** On the lines of a document, the units above a
line and the character of a position in the editor add up to the units of the text before the
position, behind the end of the line as well. The units in a range are therefore those of the text
in it. Whatever a session publishes, the units in the range of a finding are the text of the tag
that lacks an attribute or of the attribute that is blank. -/
theorem editor_ranges_denote_text :
    (∀ (doc : Document) (p : Position), p.line < doc.lineCount →
      (units (doc.textAbove p.line)).length + (doc.toEditor p).character =
        (units (doc.textUntil p)).length) ∧
    (∀ (doc : Document) (r : Range), r.start.line < doc.lineCount → r.stop.line < doc.lineCount →
      r.start ≤ r.stop → doc.unitsIn (doc.toEditorRange r) = units (doc.textInRange r)) ∧
    (∀ (folderAt : Uri → Folder) (session : Session) (message : Message) (uri : Uri),
      ∀ publication ∈ published uri (session.step folderAt message).2.sent,
      ∀ d ∈ publication.diagnostics, ∃ document,
        (session.step folderAt message).1.server.documents.get? uri = some document ∧
        ∃ o ∈ document.snapshot.occurrences session.server.catalogue,
          d.Denotes document.snapshot o) := by
  refine ⟨fun doc p hp => Document.unitOffset_toEditor hp,
    fun doc r hstart hstop hle => Document.unitsIn_toEditorRange hstart hstop hle, ?_⟩
  intro folderAt session message uri publication hpublication d hd
  obtain ⟨document, hheld, found, hfound, rfl⟩ :=
    (session.move_step folderAt message).mem_findings hpublication hd
  exact ⟨document, hheld, exists_denotes hfound⟩

/-- A page with characters outside the basic plane, whose tag is on two lines. -/
def astralPage : OpenDocument :=
  ⟨"😀\r\n😀<f-row\n 😀 label=''>", 1, "vue"⟩

/-- The finding that is published for the page, at the place of the attribute. -/
def astralFinding : EditorDiagnostic :=
  let range : EditorRange := ⟨⟨2, 4⟩, ⟨2, 12⟩⟩
  ⟨range, .error, "blank-attribute", "flow", "label cannot be blank",
    [⟨range, "Blank value not allowed"⟩]⟩

/-- A position past the end of the first line, a range over both lines of the tag, and the finding
that is published when the page is opened. -/
theorem editor_ranges_denote_text_astralPage :
    let doc := astralPage.snapshot
    let session := (Session.fresh labelledCatalogue {}).after (fun _ => []) [startMessage]
    let step := session.step (fun _ => []) (openMessage "file:///page.vue" astralPage)
    (units (doc.textAbove 0)).length + (doc.toEditor ⟨0, 40⟩).character =
      (units (doc.textUntil ⟨0, 40⟩)).length ∧
    doc.unitsIn (doc.toEditorRange ⟨⟨1, 1⟩, ⟨2, 2⟩⟩) = units "<f-row\n 😀".toList ∧
    published pageUri step.2.sent = [⟨[astralFinding], some 1⟩] ∧
    ∃ document, step.1.server.documents.get? pageUri = some document ∧
      ∃ o ∈ document.snapshot.occurrences labelledCatalogue,
        astralFinding.Denotes document.snapshot o := by
  intro doc session step
  obtain ⟨hposition, hrange, hpublished⟩ := editor_ranges_denote_text
  have hsent : published pageUri step.2.sent = [⟨[astralFinding], some 1⟩] := by decide +kernel
  refine ⟨hposition doc ⟨0, 40⟩ (by decide), ?_, hsent, ?_⟩
  · refine (hrange doc ⟨⟨1, 1⟩, ⟨2, 2⟩⟩ (by decide) (by decide) (by decide)).trans ?_
    decide
  · exact hpublished (fun _ => []) session _ pageUri _ (hsent ▸ List.mem_cons_self) _
      List.mem_cons_self

end MarkupAssist
