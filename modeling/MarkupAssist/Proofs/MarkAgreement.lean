import Mathlib.Data.List.Nodup
import MarkupAssist.Proofs.AddedAttribute
import MarkupAssist.Proofs.OfferedAttributes

/-!
# Marks that are offered and marks that count

A required attribute is offered with the marks that suit its kind, and with each of them it may be
written down. Whether the tag then has the attribute is decided by another reader of the mark, which
does not know the kind: it takes the marks of a value binding away and leaves an at sign alone.

* `Diagnostic.IsAbout`: a finding is about one attribute only (`Diagnostic.IsAbout.unique`). So of
  the findings in a tag those about one attribute are what is wrong with it (`filter_faults`).
* `Markup.markedAttribute`: an attribute that is written with a mark and a value in quotes. It bears
  the name behind the mark unless the mark is an at sign (`bears_markedAttribute`).

`findings_of_offered` compares the two readers: they agree on each mark but `@`.
-/

namespace MarkupAssist

open Text Markup Completion

/-! ### Findings about one attribute -/

/-- A finding is about an attribute if it says that this is missing or blank. -/
def Diagnostic.IsAbout (d : Diagnostic) (name : String) : Prop :=
  d = .missing d.range name ∨ d = .blank d.range name

instance (d : Diagnostic) (name : String) : Decidable (d.IsAbout name) :=
  inferInstanceAs (Decidable (_ ∨ _))

/-- A finding is about one attribute only. -/
theorem Diagnostic.IsAbout.unique {d : Diagnostic} {name other : String} (h : d.IsAbout name)
    (hother : d.IsAbout other) : name = other := by
  rcases h with hmissing | hblank
  · rcases hother with hmissing' | hblank'
    · exact (missing_inj (hmissing.symm.trans hmissing')).2
    · exact (missing_ne_blank _ _ _ _ (hmissing.symm.trans hblank')).elim
  · rcases hother with hmissing' | hblank'
    · exact (missing_ne_blank _ _ _ _ (hmissing'.symm.trans hblank)).elim
    · have hmessage : name ++ " cannot be blank" = other ++ " cannot be blank" :=
        congrArg Diagnostic.message (hblank.symm.trans hblank')
      exact (String.append_left_inj _).mp hmessage

namespace Occurrence

variable {o : Occurrence}

/-- What is found wrong with a required attribute is about this attribute. -/
theorem isAbout_of_fault? {required : String × Attribute} {d : Diagnostic}
    (h : o.fault? required = some d) : d.IsAbout required.1 := by
  unfold fault? at h
  split at h
  · obtain rfl := Option.some.inj h
    exact .inl rfl
  · split at h
    · cases h
    · split at h
      · obtain rfl := Option.some.inj h
        exact .inr rfl
      · cases h

theorem filter_faults_of_notMem {required : Entries Attribute} {name : String}
    (hname : name ∉ required.names) :
    (required.filterMap o.fault?).filter (fun d => d.IsAbout name) = [] := by
  rw [List.filter_eq_nil_iff]
  intro d hd habout
  obtain ⟨r, hr, hfault⟩ := List.mem_filterMap.mp hd
  have hsame : name = r.1 := (of_decide_eq_true habout).unique (isAbout_of_fault? hfault)
  exact hname (hsame ▸ List.mem_map_of_mem hr)

/-- **The findings about one required attribute** are what is wrong with it. -/
theorem filter_faults {required : Entries Attribute} (hnodup : required.names.Nodup)
    {r : String × Attribute} (hr : r ∈ required) :
    (required.filterMap o.fault?).filter (fun d => d.IsAbout r.1) = (o.fault? r).toList := by
  obtain ⟨before, after, rfl⟩ := List.append_of_mem hr
  -- the name stands at one place
  have hsplit : (Entries.names before ++ r.1 :: Entries.names after).Nodup := by
    simpa [Entries.names] using hnodup
  obtain ⟨-, hafter, hdisjoint⟩ := List.nodup_append.mp hsplit
  have hbefore : r.1 ∉ Entries.names before := fun hmem => hdisjoint _ hmem _ List.mem_cons_self rfl
  have hone : ((o.fault? r).toList).filter (fun d => d.IsAbout r.1) = (o.fault? r).toList := by
    rw [List.filter_eq_self]
    intro d hd
    exact decide_eq_true (isAbout_of_fault? (Option.mem_toList.mp hd))
  have hcons : (r :: after).filterMap o.fault? =
      (o.fault? r).toList ++ after.filterMap o.fault? := by
    rw [List.filterMap_cons]
    cases o.fault? r <;> rfl
  rw [List.filterMap_append, hcons, List.filter_append, List.filter_append, hone,
    filter_faults_of_notMem hbefore, filter_faults_of_notMem (List.nodup_cons.mp hafter).1,
    List.nil_append, List.append_nil]

end Occurrence

/-! ### One attribute with a mark -/

namespace Markup

theorem isAttributeChar_of_isNameChar {c : Char} (hc : isNameChar c = true) :
    isAttributeChar c = true := by
  by_contra hattr
  rw [Bool.not_eq_true] at hattr
  simp only [isAttributeChar, Bool.not_eq_false', Bool.or_eq_true, beq_iff_eq, or_assoc] at hattr
  -- neither blanks nor punctuation stand in names
  rcases hattr with hblank | rfl | rfl | rfl | rfl | rfl | rfl | rfl | rfl
  · rw [isNameChar_of_isBlank hblank] at hc
    cases hc
  all_goals exact absurd hc (by decide)

theorem isAttributeChar_of_mem_mark {mark : List Char} (hmark : mark ∈ bindingMarks) {c : Char}
    (hc : c ∈ mark) : isAttributeChar c = true := by
  have hcases : c = ':' ∨ c = '@' := by
    simpa [isBindingMark] using isBindingMark_of_mem hmark hc
  rcases hcases with rfl | rfl <;> decide

theorem colon_not_prefix {name : List Char} (hname : NameText name) : ¬ [':'] <+: name := by
  rintro ⟨tail, rfl⟩
  exact hname.notMem (d := ':') (by decide) List.mem_cons_self

/-- What is left of a name behind a mark without the marks of a value binding. -/
theorem dropValueBinding_marked {mark name : List Char} (hmark : mark ∈ bindingMarks)
    (hname : NameText name) :
    dropValueBinding (mark ++ name) = if mark = ['@'] then '@' :: name else name := by
  have hcolon := colon_not_prefix hname
  simp only [bindingMarks, List.mem_cons, List.not_mem_nil, or_false] at hmark
  rcases hmark with rfl | rfl | rfl
  · have hbind : ¬ "v-bind:".toList <+: name := by
      rintro ⟨tail, rfl⟩
      exact hname.notMem (d := ':') (by decide) (List.mem_append_left _ (by decide))
    exact dropValueBinding_eq_self ⟨hcolon, hbind⟩
  · have hbind : ¬ "v-bind:".toList <+: [':'] ++ name := by
      rintro ⟨tail, htail⟩
      cases htail
    exact stripsTo_iff.mp ⟨0, 1, rfl, hbind, hcolon⟩
  · refine dropValueBinding_eq_self ⟨?_, ?_⟩ <;>
    · rintro ⟨tail, htail⟩
      cases htail

/-- An attribute with a mark and a value in quotes, as it is read behind a blank. -/
def markedAttribute (mark name value : List Char) : AttributeMatch :=
  ⟨1, mark ++ name, quotedAttribute (mark ++ name) '"' value, some value⟩

/-- A tag that holds nothing but this attribute, as it is read. -/
def markedTag (tag mark name value : List Char) : TagMatch :=
  ⟨0, tag, ' ' :: quotedAttribute (mark ++ name) '"' value ++ ['>']⟩

/-- **An at sign is part of the name.** The other marks are taken away. -/
theorem bears_markedAttribute {mark : List Char} {name : String} (hmark : mark ∈ bindingMarks)
    (hname : NameText name.toList) (value : List Char) :
    (markedAttribute mark name.toList value).Bears name ↔ mark ≠ ['@'] := by
  have hne : name ≠ "" := fun hnil => hname.ne_nil (String.toList_eq_nil_iff.mpr hnil)
  rw [AttributeMatch.bears_iff, and_iff_right hne]
  show dropValueBinding (mark ++ name.toList) = name.toList ↔ mark ≠ ['@']
  rw [dropValueBinding_marked hmark hname]
  split
  · next hat => exact iff_of_false (List.cons_ne_self _ _) fun h => h hat
  · next hat => exact iff_of_true rfl hat

theorem tagEnd_bracket : TagEnd ['>'] :=
  ⟨[], ['>'], rfl, fun _ hc => absurd hc List.not_mem_nil, .inl rfl⟩

section Marked

variable {mark name value : List Char} (hmark : mark ∈ bindingMarks) (hname : NameText name)
  (hvalue : '"' ∉ value)

include hmark hname hvalue

/-- The attribute is one that can be written, so that both scanners read it back. -/
theorem exists_written :
    ∃ a : WrittenAttribute, a.toMatch 0 = markedAttribute mark name value ∧
      renderAttributes [a] = ' ' :: quotedAttribute (mark ++ name) '"' value := by
  have hne : mark ++ name ≠ [] := fun hnil => hname.ne_nil (List.append_eq_nil_iff.mp hnil).2
  have hchars : ∀ c ∈ mark ++ name, isAttributeChar c = true := by
    intro c hc
    rcases List.mem_append.mp hc with hc | hc
    · exact isAttributeChar_of_mem_mark hmark hc
    · exact isAttributeChar_of_isNameChar (hname.chars c hc)
  refine ⟨⟨[' '], mark ++ name, some ⟨'"', '"', value, .doubleQuote, hvalue⟩, ?_, ?_, hne, hchars⟩,
    rfl, List.append_nil _⟩
  · exact List.cons_ne_nil _ _
  · exact List.forall_mem_singleton.mpr rfl

theorem tagMatches_markedTag {tag : List Char} (htag : CustomName tag) :
    tagMatches 0 (markedTag tag mark name value).text = [markedTag tag mark name value] := by
  obtain ⟨a, -, hrender⟩ := exists_written hmark hname hvalue
  have hbody := body?_attributes [a] tagEnd_bracket []
  have hstop := head?_written [a] tagEnd_bracket []
  rw [hrender, List.append_nil] at hbody hstop
  rw [TagMatch.text, markedTag, tagMatches_of_tag? (tag?_of_body? htag hstop hbody), tagMatches]

/-- The only attribute of the tag is the one that was written. -/
theorem attributeMatches_markedTag (tag : List Char) :
    attributeMatches 0 (markedTag tag mark name value).body =
      [markedAttribute mark name value] := by
  obtain ⟨a, hmatch, hrender⟩ := exists_written hmark hname hvalue
  have hwritten := attributeMatches_written [a] tagEnd_bracket 0
  rw [hrender] at hwritten
  rw [← hmatch]
  exact hwritten

end Marked

end Markup

/-! ### The findings in the tag -/

section Tag

variable {tag name : String} {mark value : List Char} (hmark : mark ∈ bindingMarks)
  (hname : NameText name.toList) (hvalue : '"' ∉ value)

include hmark hname hvalue

/-- What is wrong with the attribute of the tag: it is missing if it has an at sign. -/
theorem fault?_markedTag (hfilled : ∃ c ∈ value, isBlank c = false) (doc : Document)
    (tag : List Char) (attr : Attribute) :
    let o := doc.occurrence (markedTag tag mark name.toList value)
    o.fault? (name, attr) = if mark = ['@'] then some (.missing o.range name) else none := by
  intro o
  have hmatches := attributeMatches_markedTag hmark hname hvalue tag
  have hbears := bears_markedAttribute hmark hname value
  rw [fault?_occurrence]
  split
  · next hat =>
    -- nothing bears the name
    have hnone : (markedTag tag mark name.toList value).lastBearing? name = none := by
      rw [TagMatch.lastBearing?_eq_none_iff, hmatches, List.forall_mem_singleton]
      exact fun h => hbears.mp h hat
    rw [hnone, Option.elim_none]
  · next hat =>
    have hlast : (markedTag tag mark name.toList value).lastBearing? name =
        some (markedAttribute mark name.toList value) :=
      TagMatch.lastBearing?_eq_some_iff.mpr
        ⟨[], [], hmatches, hbears.mpr hat, fun b hb => absurd hb List.not_mem_nil⟩
    have hblank : (markedAttribute mark name.toList value).leavesBlank attr.type = false := by
      show value.all isBlank = false
      rw [List.all_eq_false]
      obtain ⟨c, hc, hblank⟩ := hfilled
      exact ⟨c, hc, by simp [hblank]⟩
    rw [hlast, Option.elim_some, hblank, if_neg Bool.false_ne_true]

/-- The findings in the tag are about the required attributes of its element. -/
theorem validate_markedTag {catalogue : Catalogue} (htag : CustomName tag.toList)
    {element : Element} (hknown : catalogue.element? tag = some element) {doc : Document}
    (hdoc : doc.chars = (markedTag tag.toList mark name.toList value).text) :
    catalogue.validate doc = element.required.filterMap
      (doc.occurrence (markedTag tag.toList mark name.toList value)).fault? := by
  set m := markedTag tag.toList mark name.toList value
  have htags : tagMatches 0 doc.chars = [m] := by
    rw [hdoc]
    exact tagMatches_markedTag hmark hname hvalue htag
  have hsame : String.ofList m.name = tag := String.ofList_toList
  have hisKnown : catalogue.isKnown (String.ofList m.name) = true := by
    rw [hsame]
    exact Catalogue.isKnown_iff.mpr ⟨element, hknown⟩
  rw [Catalogue.validate_eq_findingsIn, htags, Catalogue.findingsIn_cons _ _ hisKnown,
    Catalogue.faults_occurrence, hsame, hknown]
  exact List.append_nil _

end Tag

/-- **An attribute counts with the marks it is offered with, but for the at sign.** A required
attribute is offered behind each mark that suits its kind. If the tag is written with the attribute
behind this mark, and with a value that is not blank, there is no finding about the attribute,
unless the mark is `@`. Behind `@` only methods are offered, and the one finding about the method
is that the tag lacks it. -/
theorem findings_of_offered {sources : List (String × String)} {catalogue : Catalogue}
    (hload : Catalogue.load sources = .ok catalogue) {tag : String} (htag : CustomName tag.toList)
    {element : Element} (hknown : catalogue.element? tag = some element) {name : String}
    {attr : Attribute} (hrequired : (name, attr) ∈ element.required)
    (hname : NameText name.toList) {mark : List Char} (hmark : mark ∈ bindingMarks)
    (haccepts : (Binding.ofToken mark).accepts attr = true) {value : List Char}
    (hvalue : '"' ∉ value) (hfilled : ∃ c ∈ value, isBlank c = false) (language : String) :
    let doc : Document :=
      ⟨'<' :: (tag.toList ++ ' ' :: (mark ++ name.toList ++ '=' :: '"' :: (value ++ ['"', '>']))),
        language⟩
    (∀ settings page p, TypedAt page p mark [] →
      name ∈ offeredNames catalogue tag settings page p) ∧
    (mark = ['@'] → attr.isMethod = true) ∧
    (catalogue.validate doc).filter (fun d => d.IsAbout name) =
      if mark = ['@'] then [.missing (doc.rangeBetween 0 doc.chars.length) name] else [] := by
  intro doc
  have hmem : (name, attr) ∈ element.attributes := (List.mem_filter.mp hrequired).1
  have hkind := (accepts_ofToken_iff hmark attr).mp haccepts
  refine ⟨?_, hkind.1, ?_⟩
  · intro settings page p h
    rw [offeredNames_typed hknown h, mem_names_asked hmark h.plain]
    exact ⟨attr, hmem, { first := by simp, event := hkind.1, value := hkind.2 }⟩
  · have hnodup : element.required.names.Nodup :=
      (Catalogue.nodup_attributes_of_load hload (Entries.mem_of_get? hknown)).sublist
        (List.filter_sublist.map _)
    have hdoc : doc.chars = (markedTag tag.toList mark name.toList value).text := by
      simp [doc, markedTag, TagMatch.text, quotedAttribute]
    have hrange : (doc.occurrence (markedTag tag.toList mark name.toList value)).range =
        doc.rangeBetween 0 doc.chars.length := by
      show doc.rangeBetween 0 (0 + (markedTag tag.toList mark name.toList value).text.length) = _
      rw [Nat.zero_add, hdoc]
    rw [validate_markedTag hmark hname hvalue htag hknown hdoc,
      Occurrence.filter_faults hnodup hrequired, fault?_markedTag hmark hname hvalue hfilled,
      hrange]
    split <;> rfl

/-- A bound attribute counts, also with a value that seems to end the tag. -/
theorem findings_of_offered_caption :
    let doc : Document := ⟨"<f-key :Caption=\"a > b\">".toList, "vue"⟩
    Catalogue.load [("key.json", keySource)] = .ok keyCatalogue ∧
      CustomName "f-key".toList ∧ ("Caption", { isRequired := true }) ∈ keyElement.required ∧
      NameText "Caption".toList ∧ (Binding.ofToken [':']).accepts { isRequired := true } = true ∧
      (keyCatalogue.validate doc).filter (fun d => d.IsAbout "Caption") = [] := by
  intro doc
  have htag : CustomName "f-key".toList :=
    ⟨'f', [], "key".toList, rfl, rfl, List.all_eq_true.mp rfl, List.all_eq_true.mp rfl⟩
  have hrequired : ("Caption", { isRequired := true }) ∈ keyElement.required :=
    List.mem_filter.mpr ⟨by simp [keyElement], rfl⟩
  have hname : NameText "Caption".toList :=
    ⟨by decide, List.all_eq_true.mp (by decide +kernel)⟩
  have hknown : keyCatalogue.element? "f-key" = some keyElement := rfl
  have haccepts : (Binding.ofToken [':']).accepts { isRequired := true } = true := rfl
  have hvalue : '"' ∉ "a > b".toList := by decide
  have h := (findings_of_offered load_keySource htag hknown hrequired hname
    (by decide) haccepts hvalue ⟨'a', by decide, by decide⟩ "vue").2.2
  exact ⟨load_keySource, htag, hrequired, hname, haccepts, h⟩

/-- A method is offered with an at sign, and a tag that is written like this lacks it. -/
theorem missing_despite_event :
    let doc : Document := ⟨"<f-key @click=\"go\">".toList, "vue"⟩
    "click" ∈ offeredNames keyCatalogue "f-key" {} ⟨"<f-key @".toList, "vue"⟩ ⟨0, 8⟩ ∧
      .missing (.onLine 0 0 19) "click" ∈ keyCatalogue.validate doc := by
  decide +kernel

end MarkupAssist
