import MarkupAssist.Proofs.LineEnding
import MarkupAssist.Proofs.PublishedRanges

/-!
# Where tags and attributes stand

The tags of a document are found one behind the other, and so are the attributes in the body of a
tag. Ranges are made of positions, so the order of places has to be carried over to them
(`Document.precedes_rangeBetween`).

* `pairwise_occurrences`: the ranges of tags are in order and do not overlap.
* `Markup.pairwise_attributeMatches`: neither do the attributes of a body. Of several attributes
  with one name all but the last go, which leaves a part of the list in the same order
  (`pairwise_attributes`).
* `Markup.AttributeText.getLast?_ne_end`: no attribute ends with a `>`, so none reaches the one that
  ends its tag (`exists_behind_attribute`).
* `Occurrence.nameEnd` and `Occurrence.closing` are the positions between which the attributes
  stand. They are read off the range of the tag, since neither a name nor a bracket has a line feed.

`occurrence_ranges` puts them together.
-/

namespace MarkupAssist

open Text Markup

/-! ### Ranges in order -/

/-- A range starts before another one and ends where that one starts, or earlier. -/
def Range.Precedes (r s : Range) : Prop :=
  r.start < s.start ∧ r.stop ≤ s.start

theorem Range.Precedes.overlaps_eq_false {r s : Range} (h : r.Precedes s) :
    r.overlaps s = false := by
  have hstart : ¬ s.start < r.stop := Position.not_lt.mpr h.2
  simp [overlaps, hstart]

namespace Document

variable {doc : Document}

theorem positionAt_mono {o o' : Nat} (hle : o ≤ o') : doc.positionAt o ≤ doc.positionAt o' := by
  obtain ⟨more, hmore⟩ : doc.chars.take o <+: doc.chars.take o' := List.take_prefix_take_left hle
  rw [positionAt, positionAt, ← hmore, Position.advanceOver_append]
  by_cases hnil : more = []
  · subst hnil
    exact (Position.le_iff _ _).mpr (.inr ⟨rfl, Nat.le_refl _⟩)
  · exact Position.le_of_lt (Position.lt_advanceOver _ hnil)

/-- Pieces of text that stand in order have ranges in order. -/
theorem precedes_rangeBetween {start stop start' : Nat} (hne : start < stop) (hle : stop ≤ start')
    (hend : start' ≤ doc.chars.length) (stop' : Nat) :
    (doc.rangeBetween start stop).Precedes (doc.rangeBetween start' stop') :=
  ⟨positionAt_lt (Nat.lt_of_lt_of_le hne hle) hend, positionAt_mono hle⟩

/-- A piece of text without a line feed ends on the line on which it starts. -/
theorem positionAt_add {front text back : List Char} (hchars : doc.chars = front ++ (text ++ back))
    (htext : '\n' ∉ text) :
    doc.positionAt (front.length + text.length) =
      ⟨(doc.positionAt front.length).line,
        (doc.positionAt front.length).character + text.length⟩ := by
  have hwhole : doc.chars.take (front.length + text.length) = front ++ text := by
    rw [hchars, ← List.append_assoc, ← List.length_append, List.take_left]
  rw [positionAt, hwhole, Position.advanceOver_append, Position.advanceOver_line _ htext,
    positionAt, hchars, List.take_left]

end Document

/-! ### Tags -/

theorem end_le_of_mem_tagMatches {doc : Document} {m : TagMatch}
    (hm : m ∈ tagMatches 0 doc.chars) : m.offset + m.text.length ≤ doc.chars.length := by
  obtain ⟨before, rest, hchars, hoffset, -⟩ := mem_tagMatches hm
  rw [hchars, hoffset]
  simp only [List.length_append]
  omega

/-- **The ranges of tags are in order.** -/
theorem pairwise_occurrences (doc : Document) (catalogue : Catalogue) :
    (doc.occurrences catalogue).Pairwise fun a b => a.range.Precedes b.range := by
  rw [Document.occurrences, List.pairwise_map]
  refine ((pairwise_tagMatches 0 doc.chars).filter _).imp_of_mem ?_
  intro m n _ hn hle
  have hend := end_le_of_mem_tagMatches (List.mem_filter.mp hn).1
  have hpos : 0 < m.text.length := by simp [TagMatch.text]
  exact Document.precedes_rangeBetween (by omega) hle (by omega) _

theorem Markup.CustomName.getLast?_ne_return {name : List Char} (hname : CustomName name) :
    ('<' :: name).getLast? ≠ some '\r' := by
  intro hreturn
  have hmem := List.mem_of_getLast? hreturn
  simp only [List.mem_cons, Char.reduceEq, false_or] at hmem
  exact hname.notMem (by decide) hmem

/-- The position behind the name of a tag. -/
def Occurrence.nameEnd (o : Occurrence) : Position :=
  ⟨o.range.start.line, o.range.start.character + (o.name.toList.length + 1)⟩

/-- The position in front of the `>` that ends a tag. -/
def Occurrence.closing (o : Occurrence) : Position :=
  ⟨o.range.stop.line, o.range.stop.character - 1⟩

section Tag

variable {doc : Document} {m : TagMatch} {pre body rest : List Char}
  (hname : CustomName m.name) (hbody : m.body = body ++ ['>']) (hoffset : m.offset = pre.length)
  (hchars : doc.chars = pre ++ '<' :: (m.name ++ body ++ '>' :: rest))

include hname hoffset hchars in
theorem nameEnd_occurrence :
    (doc.occurrence m).nameEnd = doc.positionAt (m.offset + ('<' :: m.name).length) := by
  have hplace : doc.chars = pre ++ ('<' :: m.name ++ (body ++ '>' :: rest)) := by simp [hchars]
  have hfeed : '\n' ∉ '<' :: m.name := by
    simpa using hname.notMem (c := '\n') (by decide)
  rw [hoffset, Document.positionAt_add hplace hfeed, ← hoffset]
  simp [Occurrence.nameEnd, Document.occurrence, Document.rangeBetween]

include hname hoffset hchars in
/-- The position behind the name of a tag is its place. -/
theorem offsetAt_nameEnd :
    doc.offsetAt (doc.occurrence m).nameEnd = m.offset + ('<' :: m.name).length := by
  have hplace : doc.chars = pre ++ ('<' :: m.name ++ (body ++ '>' :: rest)) := by simp [hchars]
  have hrange := offsetAt_rangeBetween hplace (by simp) (by simp) hname.getLast?_ne_return
  rw [nameEnd_occurrence hname hoffset hchars, hoffset]
  exact hrange.2

include hbody hoffset hchars in
theorem closing_occurrence :
    (doc.occurrence m).closing = doc.positionAt (m.offset + ('<' :: (m.name ++ body)).length) := by
  have hplace : doc.chars = (pre ++ '<' :: (m.name ++ body)) ++ (['>'] ++ rest) := by simp [hchars]
  have hlength : m.offset + m.text.length =
      (pre ++ '<' :: (m.name ++ body)).length + ['>'].length := by
    simp only [hoffset, TagMatch.text, hbody, List.length_append, List.length_cons]
    omega
  have hstop := Document.positionAt_add hplace (by decide)
  rw [← hlength] at hstop
  simp only [Occurrence.closing, Document.occurrence, Document.rangeBetween, hstop]
  rw [hoffset, ← List.length_append]
  rfl

include hname hoffset hchars in
/-- A tag starts with its `<` and its name. -/
theorem holds_name :
    doc.Holds ⟨(doc.occurrence m).range.start, (doc.occurrence m).nameEnd⟩ ('<' :: m.name) := by
  have hplace : doc.chars = pre ++ ('<' :: m.name ++ (body ++ '>' :: rest)) := by simp [hchars]
  have hholds := Document.holds_rangeBetween hplace (by simp) (by simp) hname.getLast?_ne_return
  rw [← hoffset, Document.rangeBetween, ← nameEnd_occurrence hname hoffset hchars] at hholds
  exact hholds

include hbody hoffset hchars in
/-- A tag ends with its `>`. -/
theorem holds_closing :
    doc.Holds ⟨(doc.occurrence m).closing, (doc.occurrence m).range.stop⟩ ['>'] := by
  have hplace : doc.chars = (pre ++ '<' :: (m.name ++ body)) ++ (['>'] ++ rest) := by simp [hchars]
  have hholds := Document.holds_rangeBetween hplace (by simp) (by simp) (by simp)
  have hstart : (pre ++ '<' :: (m.name ++ body)).length =
      m.offset + ('<' :: (m.name ++ body)).length := by
    rw [List.length_append, hoffset]
  have hstop : m.offset + ('<' :: (m.name ++ body)).length + ['>'].length =
      m.offset + m.text.length := by
    simp only [TagMatch.text, hbody, List.length_append, List.length_cons]
    omega
  rw [hstart, hstop, Document.rangeBetween, ← closing_occurrence hbody hoffset hchars] at hholds
  exact hholds

end Tag

/-! ### Attributes -/

namespace Markup

/-- **Attributes stand in order and do not overlap.** -/
theorem pairwise_attributeMatches (offset : Nat) (cs : List Char) :
    (attributeMatches offset cs).Pairwise fun a b => a.offset + a.text.length ≤ b.offset := by
  -- what is found in the text that is left stands behind it
  have hbehind : ∀ (place : Nat) (rest : List Char), ∀ b ∈ attributeMatches place rest,
      place ≤ b.offset := by
    intro place rest b hb
    obtain ⟨before, -, -, hoffset⟩ := mem_attributeMatches hb
    omega
  induction offset, cs using attributes_induction with
  | nil offset =>
    rw [attributeMatches.eq_def]
    exact .nil
  | assigned offset name front value rest hne hname hfront hvalue ih =>
    rw [attributeMatches_assigned hne hname hfront hvalue, List.pairwise_cons]
    exact ⟨hbehind _ rest, ih⟩
  | bare offset name rest hne hname hrest hvalue ih =>
    rw [attributeMatches_bare hne hname hrest hvalue, List.pairwise_cons]
    exact ⟨hbehind _ rest, ih⟩
  | pass offset c cs hc ih =>
    rw [attributeMatches_pass hc]
    exact ih

theorem ValueText.getLast?_ne_end {raw value : List Char} (h : ValueText raw value) :
    raw.getLast? ≠ some '>' := by
  cases h with
  | @quoted quote value hquote =>
    rw [← List.cons_append, List.getLast?_concat]
    rcases eq_of_isQuote hquote with rfl | rfl <;> decide
  | braced =>
    rw [← List.cons_append, List.getLast?_concat]
    decide
  | bare _ hvalue =>
    exact fun hend => absurd (hvalue '>' (List.mem_of_getLast? hend)) (by decide)

theorem AttributeText.getLast?_ne_end {name text : List Char} {value : Option (List Char)}
    (h : AttributeText name text value) (hname : ∀ c ∈ name, isAttributeChar c = true) :
    text.getLast? ≠ some '>' := by
  cases h with
  | bare => exact fun hend => absurd (hname '>' (List.mem_of_getLast? hend)) (by decide)
  | @assigned left right raw value _ _ hvalue =>
    obtain ⟨most, last, rfl, -⟩ := hvalue.exists_last
    have htext : name ++ (left ++ '=' :: (right ++ (most ++ [last]))) =
        (name ++ (left ++ '=' :: (right ++ most))) ++ [last] := by simp
    have hlast := hvalue.getLast?_ne_end
    rw [List.getLast?_concat] at hlast
    rwa [htext, List.getLast?_concat]

end Markup

/-- The `>` that ends a tag stands behind its attributes. -/
theorem exists_behind_attribute {body front back : List Char} {found : AttributeMatch}
    (hfound : found ∈ attributeMatches 0 (body ++ ['>']))
    (hsplit : body ++ ['>'] = front ++ (found.text ++ back)) :
    ∃ behind, body = front ++ (found.text ++ behind) := by
  obtain ⟨hne, hname, hshape⟩ := attributeText_of_mem hfound
  rcases List.eq_nil_or_concat' back with rfl | ⟨behind, last, rfl⟩
  · -- otherwise the attribute would end with it
    obtain ⟨most, last, htext⟩ :=
      (List.eq_nil_or_concat' found.text).resolve_left (hshape.not_in_break hne hname).1
    have hlast := hshape.getLast?_ne_end hname
    rw [htext, List.getLast?_concat] at hlast
    rw [htext, List.append_nil, ← List.append_assoc] at hsplit
    obtain ⟨-, hend⟩ := List.append_inj' hsplit rfl
    exact absurd (congrArg List.head? hend).symm hlast
  · rw [← List.append_assoc, ← List.append_assoc] at hsplit
    obtain ⟨hbody, -⟩ := List.append_inj' hsplit rfl
    exact ⟨behind, by rw [hbody, List.append_assoc]⟩

theorem range_of_attributeOccurrence? {doc : Document} {base : Nat} {found : AttributeMatch}
    {a : AttributeOccurrence} (h : doc.attributeOccurrence? base found = some a) :
    a.range =
      doc.rangeBetween (base + found.offset) (base + found.offset + found.text.length) := by
  rw [Document.attributeOccurrence?] at h
  split at h
  · cases h
  · rw [← Option.some.inj h]

theorem nodup_attributes (doc : Document) (m : TagMatch) :
    ((doc.occurrence m).attributes.map (·.name)).Nodup := by
  refine List.pairwise_map.mpr ?_
  show (keepLast _).Pairwise _
  rw [keepLast_eq_pwFilter]
  exact List.pairwise_pwFilter _

/-- **The ranges of attributes are in order**, also when repeated names have gone. -/
theorem pairwise_attributes {doc : Document} {m : TagMatch}
    (hend : m.offset + m.text.length ≤ doc.chars.length) :
    (doc.occurrence m).attributes.Pairwise fun a b => a.range.Precedes b.range := by
  rw [TagMatch.length_text] at hend
  show (keepLast ((attributeMatches 0 m.body).filterMap (doc.attributeOccurrence? _))).Pairwise _
  rw [keepLast_eq_pwFilter]
  refine List.Pairwise.sublist (List.pwFilter_sublist _) ?_
  refine List.Pairwise.filterMap _ ?_ ((pairwise_attributeMatches 0 m.body).imp_of_mem
    (S := fun a b => (a ∈ attributeMatches 0 m.body ∧ b ∈ attributeMatches 0 m.body) ∧
      a.offset + a.text.length ≤ b.offset) fun ha hb hle => ⟨⟨ha, hb⟩, hle⟩)
  rintro found found' ⟨⟨hfound, hfound'⟩, hle⟩ a ha a' ha'
  obtain ⟨hne, hname, hshape⟩ := attributeText_of_mem hfound
  have hpos := List.length_pos_iff.mpr (hshape.not_in_break hne hname).1
  obtain ⟨before, after, hbody, hoffset⟩ := mem_attributeMatches hfound'
  have hlength := congrArg List.length hbody
  simp only [List.length_append] at hlength
  rw [range_of_attributeOccurrence? ha, range_of_attributeOccurrence? ha']
  exact Document.precedes_rangeBetween (by omega) (by omega) (by omega) _

/-- An attribute stands between the name of its tag and the `>`. -/
theorem attribute_between {doc : Document} {m : TagMatch} {pre body rest : List Char}
    (hname : CustomName m.name) (hbody : m.body = body ++ ['>']) (hoffset : m.offset = pre.length)
    (hchars : doc.chars = pre ++ '<' :: (m.name ++ body ++ '>' :: rest)) {a : AttributeOccurrence}
    (ha : a ∈ (doc.occurrence m).attributes) :
    (doc.occurrence m).nameEnd ≤ a.range.start ∧ a.range.start < a.range.stop ∧
      a.range.stop ≤ (doc.occurrence m).closing := by
  obtain ⟨found, hfound, front, back, hsplit, rfl⟩ := mem_attributes ha
  rw [hbody] at hfound hsplit
  obtain ⟨hne, hchar, hshape⟩ := attributeText_of_mem hfound
  have hpos := List.length_pos_iff.mpr (hshape.not_in_break hne hchar).1
  obtain ⟨behind, rfl⟩ := exists_behind_attribute hfound hsplit
  have hlength := congrArg List.length hchars
  simp only [List.length_append, List.length_cons] at hlength
  rw [nameEnd_occurrence hname hoffset hchars, closing_occurrence hbody hoffset hchars]
  refine ⟨Document.positionAt_mono ?_, Document.positionAt_lt (by omega) (by omega),
    Document.positionAt_mono ?_⟩
  · rw [List.length_cons]
    omega
  · simp only [List.length_cons, List.length_append]
    omega

/-! ### The ranges of a document -/

/-- **Ranges are faithful and disjoint.** The tags of known elements stand in the order of the
document, each behind the one before. The range of a tag holds its text, from its `<` and its name
to its `>`. The range of an attribute holds its text, which is not empty, and lies between the name
of its tag and the `>`. No name is there twice, and the attributes of a tag stand in order, each
behind the one before. -/
theorem occurrence_ranges (doc : Document) (catalogue : Catalogue) :
    ((doc.occurrences catalogue).Pairwise fun o p =>
      o.range.Precedes p.range ∧ o.range.overlaps p.range = false) ∧
    ∀ o ∈ doc.occurrences catalogue,
      doc.textInRange o.range = o.rawText.toList ∧
      '<' :: o.name.toList <+: o.rawText.toList ∧ ['>'] <:+ o.rawText.toList ∧
      doc.textInRange ⟨o.range.start, o.nameEnd⟩ = '<' :: o.name.toList ∧
      doc.textInRange ⟨o.closing, o.range.stop⟩ = ['>'] ∧
      (∀ a ∈ o.attributes,
        doc.textInRange a.range = a.rawText.toList ∧ o.range.contains a.range = true ∧
        o.nameEnd ≤ a.range.start ∧ a.range.start < a.range.stop ∧ a.range.stop ≤ o.closing) ∧
      (o.attributes.map (·.name)).Nodup ∧
      o.attributes.Pairwise fun a b =>
        a.range.Precedes b.range ∧ a.range.overlaps b.range = false := by
  refine ⟨(pairwise_occurrences doc catalogue).imp fun h => ⟨h, h.overlaps_eq_false⟩, ?_⟩
  intro o ho
  have htext := (holds_occurrence ho).text_eq
  have hattribute := fun a => holds_attribute (a := a) ho
  obtain ⟨m, pre, body, rest, rfl, hname, hbody, hoffset, hchars⟩ := mem_occurrences ho
  have hraw : (doc.occurrence m).rawText.toList = '<' :: (m.name ++ body) ++ ['>'] := by
    simp [Document.occurrence, TagMatch.text, hbody]
  have hnamed : (doc.occurrence m).name.toList = m.name := String.toList_ofList
  refine ⟨htext, ?_, ?_, ?_, (holds_closing hbody hoffset hchars).text_eq, fun a ha => ?_,
    nodup_attributes doc m, (pairwise_attributes ?_).imp fun h => ⟨h, h.overlaps_eq_false⟩⟩
  · rw [hraw, hnamed]
    exact ⟨body ++ ['>'], by simp⟩
  · rw [hraw]
    exact List.suffix_append _ _
  · rw [hnamed]
    exact (holds_name hname hoffset hchars).text_eq
  · obtain ⟨hlow, hne, hhigh⟩ := attribute_between hname hbody hoffset hchars ha
    have hstart := Position.le_trans (holds_name hname hoffset hchars).ordered hlow
    have hstop := Position.le_trans hhigh (holds_closing hbody hoffset hchars).ordered
    have hcontains : (doc.occurrence m).range.contains a.range = true := by
      rw [Range.contains, Bool.and_eq_true, decide_eq_true_eq, decide_eq_true_eq]
      exact ⟨hstart, hstop⟩
    exact ⟨(hattribute a ha).text_eq, hcontains, hlow, hne, hhigh⟩
  · have hlength := congrArg List.length hchars
    simp only [TagMatch.text, hbody, hoffset, List.length_append, List.length_cons] at hlength ⊢
    simp only [List.length_nil] at hlength ⊢
    omega

/-- A text with two tags that touch. The first one is on three lines, which end with carriage
returns; it has one attribute twice, and a `>` in a value. -/
def touchingTags : Document :=
  ⟨"\r\n<f-row :label='1'\r\n wide label=\"a>\"\r\n><f-row/>\r".toList, "vue"⟩

/-- The last attribute of the first tag. -/
def lastLabel : AttributeOccurrence :=
  ⟨"label", "label=\"a>\"", some "a>", .onLine 2 6 16⟩

/-- The first tag. -/
def foldedRow : Occurrence :=
  ⟨"f-row", "<f-row :label='1'\r\n wide label=\"a>\"\r\n>", ⟨⟨1, 0⟩, ⟨3, 1⟩⟩,
    [⟨"wide", "wide", none, .onLine 2 1 5⟩, lastLabel]⟩

theorem occurrence_ranges_touchingTags :
    touchingTags.occurrences rowCatalogue =
      [foldedRow, ⟨"f-row", "<f-row/>", .onLine 3 1 9, []⟩] ∧
    foldedRow.range.overlaps (.onLine 3 1 9) = false ∧
    touchingTags.textInRange foldedRow.range = foldedRow.rawText.toList ∧
    touchingTags.textInRange lastLabel.range = "label=\"a>\"".toList ∧
    foldedRow.range.contains lastLabel.range = true ∧
    (⟨1, 6⟩ : Position) ≤ lastLabel.range.start ∧ lastLabel.range.stop ≤ ⟨3, 0⟩ ∧
    (Range.onLine 2 1 5).Precedes lastLabel.range := by
  have hfound : touchingTags.occurrences rowCatalogue =
      [foldedRow, ⟨"f-row", "<f-row/>", .onLine 3 1 9, []⟩] := by
    decide +kernel
  obtain ⟨hordered, htags⟩ := occurrence_ranges touchingTags rowCatalogue
  rw [hfound] at hordered
  obtain ⟨htext, -, -, -, -, hattributes, -, hpairwise⟩ := htags foldedRow (by simp [hfound])
  obtain ⟨hlabel, hcontains, hlow, -, hhigh⟩ := hattributes lastLabel (by simp [foldedRow])
  exact ⟨hfound, (List.rel_of_pairwise_cons hordered List.mem_cons_self).2, htext, hlabel,
    hcontains, hlow, hhigh, (List.rel_of_pairwise_cons hpairwise List.mem_cons_self).1⟩

end MarkupAssist
