import Mathlib.Data.List.Induction
import Mathlib.Data.List.Nodup
import MarkupAssist.Editor.OpenDocuments

/-!
# What the open documents remember

The open documents are changed one operation at a time: a document is opened, updated or closed
(`StoreOperation`, `OpenDocuments.perform`). What is known of an address after many operations can
be said without the states in between.

* `OpenDocuments.get?_perform`: an operation acts on the document of its own address
  (`StoreOperation.effect`) and leaves the others alone, so a whole history acts on an address as
  its operations on that address do (`OpenDocuments.get?_run`).
* `OpenDocument.revise`: an update replaces a document unless it is older. A number of updates
  leaves the newest of all revisions, and of several newest ones the last (`newest_foldl_revise`).
  If no two of them are equally new, their order does not matter (`foldl_revise_perm`).

`state_of_history` reads the open documents off a history.
-/

namespace MarkupAssist

/-- A text with its version, as an update brings it. -/
structure Revision where
  content : String
  version : Int
  deriving DecidableEq, Repr

/-- The revision that an open document is at. -/
def OpenDocument.revision (document : OpenDocument) : Revision :=
  ⟨document.content, document.version⟩

/-- A document after an update, which is dropped if it is older than the document. -/
def OpenDocument.revise (document : OpenDocument) (revision : Revision) : OpenDocument :=
  if document.version ≤ revision.version then
    { document with content := revision.content, version := revision.version }
  else document

/-- An operation on the open documents. -/
inductive StoreOperation where
  | opened (uri : Uri) (document : OpenDocument)
  | updated (uri : Uri) (revision : Revision)
  | closed (uri : Uri)
  deriving DecidableEq, Repr

namespace StoreOperation

/-- The address that an operation is about. -/
def uri : StoreOperation → Uri
  | opened uri _ => uri
  | updated uri _ => uri
  | closed uri => uri

/-- What an operation makes of the document of its address. -/
def effect (held : Option OpenDocument) : StoreOperation → Option OpenDocument
  | opened _ document => some document
  | updated _ revision => held.map (·.revise revision)
  | closed _ => none

/-- The revision that an operation brings to the document of an address. -/
def update? (uri : Uri) : StoreOperation → Option Revision
  | updated other revision => if other = uri then some revision else none
  | _ => none

end StoreOperation

/-- The revisions that a history brings to the document of an address. -/
def updatesOf (uri : Uri) (history : List StoreOperation) : List Revision :=
  history.filterMap (StoreOperation.update? uri)

namespace OpenDocuments

/-- The open documents after an operation. -/
def perform (docs : OpenDocuments) : StoreOperation → OpenDocuments
  | .opened uri document => docs.insert uri document
  | .updated uri revision => (docs.update? uri revision.content revision.version).getD docs
  | .closed uri => docs.erase uri

/-- The open documents after a history. -/
def run (docs : OpenDocuments) (history : List StoreOperation) : OpenDocuments :=
  history.foldl perform docs

/-! ### One operation -/

theorem get?_erase (docs : OpenDocuments) (uri other : Uri) :
    (docs.erase uri).get? other = if other = uri then none else docs.get? other := by
  obtain ⟨entries⟩ := docs
  show (entries.filter fun entry => entry.1 != uri).lookup other =
    if other = uri then none else entries.lookup other
  induction entries with
  | nil => exact (ite_self none).symm
  | cons entry entries ih =>
    obtain ⟨key, document⟩ := entry
    by_cases hkey : key = uri
    · -- the entry goes, and it is not the one that `other` finds unless `other` is `uri`
      rw [List.filter_cons_of_neg (by simpa using hkey), ih]
      split
      · rfl
      · next hne =>
        have hother : (other == key) = false := beq_false_of_ne fun heq => hne (heq.trans hkey)
        rw [List.lookup_cons, hother]
    · rw [List.filter_cons_of_pos (by simpa using hkey), List.lookup_cons, List.lookup_cons, ih]
      cases hother : other == key with
      | false => rfl
      | true => exact (if_neg fun heq => hkey ((eq_of_beq hother).symm.trans heq)).symm

theorem get?_insert (docs : OpenDocuments) (uri other : Uri) (document : OpenDocument) :
    (docs.insert uri document).get? other =
      if other = uri then some document else docs.get? other := by
  show ((uri, document) :: (docs.erase uri).entries).lookup other = _
  rw [List.lookup_cons]
  by_cases hother : other = uri
  · rw [beq_iff_eq.mpr hother, if_pos hother]
  · rw [beq_false_of_ne hother, if_neg hother]
    show (docs.erase uri).get? other = _
    rw [get?_erase, if_neg hother]

/-- An update is taken by an open document that is not newer. -/
theorem update?_eq_some_iff {docs next : OpenDocuments} {uri : Uri} {content : String}
    {version : Int} :
    docs.update? uri content version = some next ↔
      ∃ document, docs.get? uri = some document ∧ document.version ≤ version ∧
        next = docs.insert uri { document with content, version } := by
  unfold update?
  cases hheld : docs.get? uri with
  | none => simp
  | some document =>
    by_cases hversion : document.version ≤ version
    · simp [hversion, eq_comm]
    · simp [hversion]

theorem isSome_update?_iff (docs : OpenDocuments) (uri : Uri) (content : String) (version : Int) :
    (docs.update? uri content version).isSome ↔
      ∃ document, docs.get? uri = some document ∧ document.version ≤ version := by
  rw [Option.isSome_iff_exists]
  constructor
  · rintro ⟨next, hnext⟩
    obtain ⟨document, hheld, hversion, -⟩ := update?_eq_some_iff.mp hnext
    exact ⟨document, hheld, hversion⟩
  · rintro ⟨document, hheld, hversion⟩
    exact ⟨_, update?_eq_some_iff.mpr ⟨document, hheld, hversion, rfl⟩⟩

theorem get?_update (docs : OpenDocuments) (uri other : Uri) (revision : Revision) :
    ((docs.update? uri revision.content revision.version).getD docs).get? other =
      if other = uri then (docs.get? uri).map (·.revise revision) else docs.get? other := by
  unfold update?
  cases hheld : docs.get? uri with
  | none =>
    show docs.get? other = _
    split
    · next heq => rw [heq, hheld, Option.map_none]
    · rfl
  | some document =>
    by_cases hversion : document.version ≤ revision.version
    · simp only [hversion, if_true, Option.getD_some, get?_insert, Option.map_some,
        OpenDocument.revise]
    · simp only [hversion, if_false, Option.getD_none, Option.map_some, OpenDocument.revise]
      split
      · next heq => rw [heq, hheld]
      · rfl

/-- **An operation acts on its own address** and leaves the others alone. -/
theorem get?_perform (docs : OpenDocuments) (op : StoreOperation) (uri : Uri) :
    (docs.perform op).get? uri =
      if op.uri = uri then op.effect (docs.get? uri) else docs.get? uri := by
  cases op with
  | opened other document =>
    refine (get?_insert docs other uri document).trans ?_
    simp only [StoreOperation.uri, StoreOperation.effect, eq_comm]
  | updated other revision =>
    refine (get?_update docs other uri revision).trans ?_
    by_cases heq : uri = other
    · simp [StoreOperation.uri, StoreOperation.effect, heq]
    · simp [StoreOperation.uri, heq, Ne.symm heq]
  | closed other =>
    refine (get?_erase docs other uri).trans ?_
    simp only [StoreOperation.uri, StoreOperation.effect, eq_comm]

/-! ### Histories -/

/-- **A history acts on an address as its operations on that address do.** -/
theorem get?_run (docs : OpenDocuments) (history : List StoreOperation) (uri : Uri) :
    (docs.run history).get? uri =
      (history.filter fun op => op.uri = uri).foldl StoreOperation.effect (docs.get? uri) := by
  induction history generalizing docs with
  | nil => rfl
  | cons op history ih =>
    show ((docs.perform op).run history).get? uri = _
    rw [ih, get?_perform]
    by_cases huri : op.uri = uri
    · rw [List.filter_cons_of_pos (by simpa using huri), List.foldl_cons, if_pos huri]
    · rw [List.filter_cons_of_neg (by simpa using huri), if_neg huri]

theorem get?_run_filter (docs : OpenDocuments) (history : List StoreOperation) (uri : Uri) :
    (docs.run history).get? uri =
      (docs.run (history.filter fun op => op.uri = uri)).get? uri := by
  rw [get?_run, get?_run, List.filter_filter]
  simp only [Bool.and_self]

theorem run_append (docs : OpenDocuments) (history more : List StoreOperation) :
    docs.run (history ++ more) = (docs.run history).run more :=
  List.foldl_append

/-- A document stays closed until it is opened. -/
theorem get?_run_eq_none {docs : OpenDocuments} {history : List StoreOperation} {uri : Uri}
    (hclosed : docs.get? uri = none) (hhistory : ∀ document, .opened uri document ∉ history) :
    (docs.run history).get? uri = none := by
  induction history generalizing docs with
  | nil => exact hclosed
  | cons op history ih =>
    refine ih ?_ fun document hmem => hhistory document (List.mem_cons_of_mem _ hmem)
    rw [get?_perform, hclosed]
    split
    · next huri =>
      cases op with
      | opened other document =>
        exact absurd (huri ▸ List.mem_cons_self) (hhistory document)
      | updated other revision => rfl
      | closed other => rfl
    · rfl

/-- A document that is closed and not opened again is not there. -/
theorem get?_run_of_closed {history : List StoreOperation} {uri : Uri}
    (hclosed : .closed uri ∈ history) (hopened : ∀ document, .opened uri document ∉ history)
    (docs : OpenDocuments) : (docs.run history).get? uri = none := by
  obtain ⟨front, back, rfl⟩ := List.append_of_mem hclosed
  rw [run_append]
  show (((docs.run front).perform (.closed uri)).run back).get? uri = none
  refine get?_run_eq_none ?_ fun document hmem => hopened document ?_
  · rw [get?_perform]
    exact if_pos rfl
  · exact List.mem_append_right _ (List.mem_cons_of_mem _ hmem)

/-- An open document that is neither closed nor opened again takes the updates one by one. -/
theorem get?_run_eq_some {docs : OpenDocuments} {history : List StoreOperation} {uri : Uri}
    {document : OpenDocument} (hheld : docs.get? uri = some document)
    (hopened : ∀ other, .opened uri other ∉ history) (hclosed : .closed uri ∉ history) :
    (docs.run history).get? uri =
      some ((updatesOf uri history).foldl OpenDocument.revise document) := by
  induction history generalizing docs document with
  | nil => exact hheld
  | cons op history ih =>
    have hopened' : ∀ other, .opened uri other ∉ history :=
      fun other hmem => hopened other (List.mem_cons_of_mem _ hmem)
    have hclosed' : .closed uri ∉ history := fun hmem => hclosed (List.mem_cons_of_mem _ hmem)
    have hstep := get?_perform docs op uri
    show ((docs.perform op).run history).get? uri = _
    cases op with
    | opened other opened =>
      have hne : other ≠ uri := fun heq => hopened opened (heq ▸ List.mem_cons_self)
      rw [StoreOperation.uri, if_neg hne, hheld] at hstep
      exact ih hstep hopened' hclosed'
    | updated other revision =>
      by_cases heq : other = uri
      · rw [StoreOperation.uri, if_pos heq, hheld] at hstep
        have hupdate : StoreOperation.update? uri (.updated other revision) = some revision :=
          if_pos heq
        rw [ih hstep hopened' hclosed', updatesOf, updatesOf, List.filterMap_cons_some hupdate,
          List.foldl_cons]
      · rw [StoreOperation.uri, if_neg heq, hheld] at hstep
        have hupdate : StoreOperation.update? uri (.updated other revision) = none := if_neg heq
        rw [ih hstep hopened' hclosed', updatesOf, updatesOf, List.filterMap_cons_none hupdate]
    | closed other =>
      have hne : other ≠ uri := fun heq => hclosed (heq ▸ List.mem_cons_self)
      rw [StoreOperation.uri, if_neg hne, hheld] at hstep
      exact ih hstep hopened' hclosed'

end OpenDocuments

/-! ### Updates of one document -/

namespace OpenDocument

theorem language_foldl_revise (document : OpenDocument) (revisions : List Revision) :
    (revisions.foldl revise document).language = document.language := by
  induction revisions generalizing document with
  | nil => rfl
  | cons revision revisions ih =>
    rw [List.foldl_cons, ih, revise]
    split <;> rfl

/-- **Updates leave the newest revision**, and of several newest ones the last. -/
theorem newest_foldl_revise (document : OpenDocument) (revisions : List Revision) :
    ((document.revision :: revisions).map Revision.version).max? =
        some (revisions.foldl revise document).version ∧
      ((document.revision :: revisions).filter fun r =>
          r.version = (revisions.foldl revise document).version).getLast? =
        some (revisions.foldl revise document).revision := by
  -- from the last update on: it counts if no earlier revision is newer
  induction revisions using List.reverseRecOn with
  | nil => simp [revision]
  | append_singleton revisions last ih =>
    obtain ⟨hmax, hlast⟩ := ih
    rw [List.foldl_append, List.foldl_cons, List.foldl_nil]
    set held := revisions.foldl revise document
    obtain ⟨hmem, hle⟩ := List.max?_eq_some_iff.mp hmax
    rw [← List.cons_append, List.map_append, List.filter_append, List.max?_eq_some_iff]
    unfold revise
    split
    · next hnew =>
      refine ⟨⟨by simp, fun version hversion => ?_⟩, by simp [revision]⟩
      rcases List.mem_append.mp hversion with hversion | hversion
      · exact Int.le_trans (hle version hversion) hnew
      · exact Int.le_of_eq (List.mem_singleton.mp hversion)
    · next hold =>
      refine ⟨⟨List.mem_append_left _ hmem, fun version hversion => ?_⟩, ?_⟩
      · rcases List.mem_append.mp hversion with hversion | hversion
        · exact hle version hversion
        · rw [List.mem_singleton.mp hversion]
          omega
      · have hnone : [last].filter (fun r => r.version = held.version) = [] := by
          have hne : last.version ≠ held.version := by omega
          simpa using hne
        rw [hnone, List.append_nil, hlast]

/-- The order of updates does not matter if no two revisions are equally new. -/
theorem foldl_revise_perm {document : OpenDocument} {revisions others : List Revision}
    (hperm : revisions.Perm others)
    (hdistinct : ((document.revision :: revisions).map Revision.version).Nodup) :
    revisions.foldl revise document = others.foldl revise document := by
  have hall : (document.revision :: revisions).Perm (document.revision :: others) := hperm.cons _
  obtain ⟨hmax, hlast⟩ := newest_foldl_revise document revisions
  obtain ⟨hmax', hlast'⟩ := newest_foldl_revise document others
  set left := revisions.foldl revise document with hleft
  set right := others.foldl revise document with hright
  obtain ⟨hmem, hle⟩ := List.max?_eq_some_iff.mp hmax
  obtain ⟨hmem', hle'⟩ := List.max?_eq_some_iff.mp hmax'
  have hversions := hall.map Revision.version
  have hversion : left.version = right.version :=
    Int.le_antisymm (hle' _ (hversions.mem_iff.mp hmem)) (hle _ (hversions.mem_iff.mpr hmem'))
  have hrevision : left.revision = right.revision := by
    refine List.inj_on_of_nodup_map hdistinct ?_ ?_ hversion
    · exact List.mem_of_mem_filter (List.mem_of_getLast? hlast)
    · exact hall.mem_iff.mpr (List.mem_of_mem_filter (List.mem_of_getLast? hlast'))
  have hlanguage : left.language = right.language := by
    rw [hleft, hright, language_foldl_revise, language_foldl_revise]
  obtain ⟨hcontent, -⟩ := Revision.mk.inj hrevision
  calc left = ⟨left.content, left.version, left.language⟩ := rfl
    _ = ⟨right.content, right.version, right.language⟩ := by rw [hcontent, hversion, hlanguage]
    _ = right := rfl

end OpenDocument

/-! ### Reordered updates -/

/-- Two histories that keep a document open and bring it the same updates in some order, with the
same operations on other addresses. -/
structure ReordersUpdates (uri : Uri) (history others : List StoreOperation) : Prop where
  not_opened : ∀ document, .opened uri document ∉ history ∧ .opened uri document ∉ others
  not_closed : .closed uri ∉ history ∧ .closed uri ∉ others
  elsewhere : (history.filter fun op => op.uri ≠ uri) = others.filter fun op => op.uri ≠ uri
  updates : (updatesOf uri history).Perm (updatesOf uri others)

theorem ReordersUpdates.filter_eq {uri other : Uri} {history others : List StoreOperation}
    (h : ReordersUpdates uri history others) (hne : other ≠ uri) :
    (history.filter fun op => op.uri = other) = others.filter fun op => op.uri = other := by
  -- the operations on `other` are some of those that are not on `uri`
  have hsub : ∀ ops : List StoreOperation, (ops.filter fun op => op.uri = other) =
      (ops.filter fun op => op.uri ≠ uri).filter fun op => op.uri = other := by
    intro ops
    rw [List.filter_filter]
    refine List.filter_congr fun op _ => ?_
    by_cases hop : op.uri = other <;> simp [hop, hne]
  rw [hsub, h.elsewhere, ← hsub]

/-- The address of a page. -/
def pageUri : Uri := ⟨"file".toList, some ⟨[], [], none⟩, "/page.vue".toList, none, none⟩

/-- The address of a note. -/
def noteUri : Uri := ⟨"file".toList, some ⟨[], [], none⟩, "/note.txt".toList, none, none⟩

namespace OpenDocuments

/-- **Updates that are not equally new can come in any order.** -/
theorem get?_run_reordered {docs : OpenDocuments} {uri : Uri} {document : OpenDocument}
    {history others : List StoreOperation} (hheld : docs.get? uri = some document)
    (h : ReordersUpdates uri history others)
    (hdistinct : (document.version :: (updatesOf uri history).map Revision.version).Nodup)
    (other : Uri) : (docs.run history).get? other = (docs.run others).get? other := by
  by_cases hother : other = uri
  · subst hother
    rw [get?_run_eq_some hheld (fun d => (h.not_opened d).1) h.not_closed.1,
      get?_run_eq_some hheld (fun d => (h.not_opened d).2) h.not_closed.2,
      OpenDocument.foldl_revise_perm h.updates hdistinct]
  · rw [get?_run, get?_run, h.filter_eq hother]

/-! ### The open documents of a history -/

/-- **The open documents are determined by the last opening and the updates behind it.** A document
that was never opened, or closed since, is not there. Otherwise it has the language it was opened
with, the greatest of the versions since, and the content that came last with that version. An
update is taken exactly by a document that is open and not newer, and changes nothing otherwise.
Operations on other addresses do not count, nor does the order of updates, if their versions are
distinct and the document was not opened with one of them. -/
theorem state_of_history (history : List StoreOperation) (uri : Uri) :
    ((∀ document, .opened uri document ∉ history) → (run {} history).get? uri = none) ∧
    (∀ before document after, history = before ++ .opened uri document :: after →
      (∀ other, .opened uri other ∉ after) →
      (.closed uri ∈ after → (run {} history).get? uri = none) ∧
      (.closed uri ∉ after → ∃ held, (run {} history).get? uri = some held ∧
        held.language = document.language ∧
        ((document.revision :: updatesOf uri after).map Revision.version).max? =
          some held.version ∧
        ((document.revision :: updatesOf uri after).filter fun r =>
          r.version = held.version).getLast? = some held.revision)) ∧
    (∀ revision : Revision,
      (((run {} history).update? uri revision.content revision.version).isSome ↔
        ∃ held, (run {} history).get? uri = some held ∧ held.version ≤ revision.version) ∧
      ((run {} history).update? uri revision.content revision.version = none →
        run {} (history ++ [.updated uri revision]) = run {} history)) ∧
    (run {} history).get? uri = (run {} (history.filter fun op => op.uri = uri)).get? uri ∧
    (∀ document after others, ReordersUpdates uri after others →
      (document.version :: (updatesOf uri after).map Revision.version).Nodup →
      ∀ other, (run {} (history ++ .opened uri document :: after)).get? other =
        (run {} (history ++ .opened uri document :: others)).get? other) := by
  have hopen : ∀ (docs : OpenDocuments) (document : OpenDocument),
      (docs.perform (.opened uri document)).get? uri = some document := by
    intro docs document
    rw [get?_perform]
    exact if_pos rfl
  refine ⟨get?_run_eq_none rfl, ?_, ?_, get?_run_filter {} history uri, ?_⟩
  · rintro before document after rfl hopened
    rw [run_append]
    constructor
    · exact fun hclosed => get?_run_of_closed hclosed hopened _
    · intro hclosed
      have hheld := get?_run_eq_some (hopen (run {} before) document) hopened hclosed
      refine ⟨_, hheld, OpenDocument.language_foldl_revise _ _, ?_⟩
      exact OpenDocument.newest_foldl_revise document (updatesOf uri after)
  · intro revision
    refine ⟨isSome_update?_iff _ _ _ _, fun hrefused => ?_⟩
    rw [run_append]
    show ((run {} history).update? uri revision.content revision.version).getD _ = _
    rw [hrefused, Option.getD_none]
  · intro document after others hreorders hdistinct other
    rw [run_append, run_append]
    exact get?_run_reordered (hopen _ document) hreorders hdistinct other

/-- A page after it was opened again: two equally new updates, and an older one between them. -/
def pageUpdates : List StoreOperation :=
  [.updated pageUri ⟨"five", 5⟩, .updated noteUri ⟨"note", 8⟩, .updated pageUri ⟨"three", 3⟩,
    .updated pageUri ⟨"again", 5⟩]

/-- The page is at the last of its newest updates, not at the version it was opened with first;
two updates of another page can be exchanged. -/
theorem state_of_history_reopened :
    (run {} ([.opened pageUri ⟨"old", 9, "html"⟩] ++
        .opened pageUri ⟨"one", 2, "vue"⟩ :: pageUpdates)).get? pageUri =
      some ⟨"again", 5, "vue"⟩ ∧
    ∀ other,
      (run {} ([] ++ .opened pageUri ⟨"one", 2, "vue"⟩ ::
        [.updated pageUri ⟨"five", 5⟩, .updated pageUri ⟨"three", 3⟩])).get? other =
      (run {} ([] ++ .opened pageUri ⟨"one", 2, "vue"⟩ ::
        [.updated pageUri ⟨"three", 3⟩, .updated pageUri ⟨"five", 5⟩])).get? other := by
  constructor
  · obtain ⟨held, hheld, hlanguage, hmax, hlast⟩ :=
      ((state_of_history ([.opened pageUri ⟨"old", 9, "html"⟩] ++
        .opened pageUri ⟨"one", 2, "vue"⟩ :: pageUpdates) pageUri).2.1 _ _ _ rfl
          (by simp [pageUpdates])).2 (by decide)
    have hversion : held.version = 5 := Option.some.inj (hmax.symm.trans (by decide))
    rw [hversion] at hlast
    have hrevision : held.revision = ⟨"again", 5⟩ := Option.some.inj (hlast.symm.trans (by decide))
    obtain ⟨hcontent, -⟩ := Revision.mk.inj hrevision
    obtain ⟨content, version, language⟩ := held
    subst hcontent hversion hlanguage
    exact hheld
  · refine (state_of_history [] pageUri).2.2.2.2 ⟨"one", 2, "vue"⟩ _ _ ⟨?_, ?_, ?_, ?_⟩ ?_
    · simp
    · decide
    · decide
    · exact List.Perm.swap _ _ _
    · decide

end OpenDocuments

end MarkupAssist
