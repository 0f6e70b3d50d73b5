import MarkupAssist.Proofs.ClosedTag
import MarkupAssist.Proofs.LineEnding

/-!
# Texts one after the other

Two texts are put one behind the other, and no tag of the whole starts in the first and ends in the
second. Then the whole is read as its parts are: the tags of the first text, where they were, and
the tags of the second, behind the first text.

* `Range.behind`: a range of a text when another text is put in front of it. A position is carried
  over one character at a time (`Position.advance_behind`), so by any text
  (`Position.advanceOver_behind`).
* `Markup.tagMatches_append`: the scan of the whole. What is a tag in the first text stays one,
  whatever follows (`Markup.tag?_append_right`). A `<` that starts no tag there can only become one
  by a `>` of the second text, since a tag that ends in the first text was one before
  (`Markup.CutsNoTag.tag?_eq_none`). So the scan of the first text stays the same also when the
  second one is changed in a way that ends no tag (`Markup.tagMatches_append_of`).
* `Occurrence.mapRange`, `Diagnostic.mapRange`: all ranges of a result changed in the same way.
  Results are computed from ranges alone, so they follow (`Document.occurrence_mapRange`,
  `Catalogue.faults_mapRange`).
-/

namespace MarkupAssist

open Text Markup

/-! ### Positions behind a text -/

namespace Position

/-- A position of a text when `front` is put in front of the text. Its line moves down by the line
feeds of `front`. Only on the first line its character moves, by what stands behind the last line
feed of `front`. -/
def behind (front : List Char) (p : Position) : Position where
  line := p.line + front.count '\n'
  character := if p.line = 0 then p.character + (lastLine front).length else p.character

theorem advance_behind (front : List Char) (p : Position) (c : Char) :
    (p.advance c).behind front = (p.behind front).advance c := by
  by_cases hc : c = '\n'
  · have hstep : ∀ q : Position, q.advance c = ⟨q.line + 1, 0⟩ := fun q => if_pos hc
    simp only [hstep, behind, Nat.add_right_comm _ 1]
    rfl
  · have hstep : ∀ q : Position, q.advance c = ⟨q.line, q.character + 1⟩ := fun q => if_neg hc
    simp only [hstep, behind, mk.injEq, true_and]
    split
    · exact Nat.add_right_comm _ _ _
    · rfl

theorem advanceOver_behind (front : List Char) (p : Position) (cs : List Char) :
    (p.advanceOver cs).behind front = (p.behind front).advanceOver cs := by
  induction cs generalizing p with
  | nil => rfl
  | cons c cs ih =>
    show ((p.advance c).advanceOver cs).behind front = ((p.behind front).advance c).advanceOver cs
    rw [ih, advance_behind]

/-- The start of a text that is put behind `front` is the end of `front`. -/
theorem behind_origin (front : List Char) : origin.behind front = origin.advanceOver front := by
  obtain ⟨above, last, rfl, habove, hlast⟩ := exists_unlines front
  have hcount : (unlines above ++ last).count '\n' = above.length := by
    rw [List.count_append, count_unlines habove, List.count_eq_zero.mpr hlast, Nat.add_zero]
  have hbehind : ∀ cs, origin.behind cs = ⟨0 + cs.count '\n', 0 + (lastLine cs).length⟩ :=
    fun _ => rfl
  rw [hbehind, hcount, lastLine_append hlast, advanceOver_origin habove hlast, Nat.zero_add,
    Nat.zero_add]

end Position

/-- A range of a text when `front` is put in front of the text. -/
def Range.behind (front : List Char) (r : Range) : Range :=
  ⟨r.start.behind front, r.stop.behind front⟩

/-! ### Tags of a whole -/

namespace Markup

/-- A tag at the start of a text is one whatever follows the text. -/
theorem tag?_append_right {cs name body rest : List Char} (h : tag? cs = some (name, body, rest))
    (back : List Char) : tag? (cs ++ back) = some (name, body, rest ++ back) := by
  obtain ⟨ts, hshape, hbody, hname⟩ := tagShape_of_tag? h
  have hcs := tag?_append h
  -- the name stops at the first character of the body
  have hstop : (body ++ (rest ++ back)).head?.any isNameChar = false := by
    have hdrop : body ++ rest = cs.dropWhile isNameChar := by
      rw [← List.takeWhile_append_dropWhile (p := isNameChar) (l := cs), ← hname] at hcs
      exact List.append_cancel_left hcs
    have hne : body ≠ [] := by simp [hbody]
    have hhead := head?_dropWhile isNameChar cs
    rw [← hdrop, List.head?_append_of_ne_nil _ hne] at hhead
    rwa [List.head?_append_of_ne_nil _ hne]
  rw [← hcs, List.append_assoc, List.append_assoc]
  refine tag?_of_body? hshape.name_ok hstop
    (body?_eq_some_iff.mpr ⟨ts, hshape.tokens_ok, hbody, ?_⟩)
  rw [hbody, List.append_assoc, List.singleton_append]

/-- A tag that ends in front of a text is one without that text. -/
theorem isSome_tag?_of_append {cs back name body rest : List Char}
    (h : tag? (cs ++ back) = some (name, body, rest))
    (hle : name.length + body.length ≤ cs.length) : (tag? cs).isSome := by
  obtain ⟨ts, hshape, hbody, -⟩ := tagShape_of_tag? h
  have hprefix : name ++ body <+: cs := by
    refine List.prefix_of_prefix_length_le ?_ (List.prefix_append cs back) ?_
    · rw [← tag?_append h, ← List.append_assoc]
      exact List.prefix_append _ _
    · rwa [List.length_append]
  obtain ⟨rest', rfl⟩ := hprefix
  have hshape' : TagShape ('<' :: (name ++ body ++ rest')) name ts rest' := by
    refine ⟨hshape.name_ok, hshape.tokens_ok, ?_⟩
    rw [hbody]
    simp
  obtain ⟨name', body', htag, -⟩ := hshape'.exists_tag?
  rw [htag]
  rfl

theorem end_of_tag? {cs name body rest : List Char} (h : tag? cs = some (name, body, rest))
    (offset : Nat) :
    offset + 1 + name.length + body.length + rest.length = offset + ('<' :: cs).length := by
  rw [← tag?_append h]
  simp only [List.length_cons, List.length_append]
  omega

/-- No tag of the whole starts in the first text, which stands behind `offset` characters, and ends
in the second. -/
def CutsNoTag (offset : Nat) (front back : List Char) : Prop :=
  ∀ m ∈ tagMatches offset (front ++ back),
    ¬ (m.offset < offset + front.length ∧ offset + front.length < m.offset + m.text.length)

namespace CutsNoTag

variable {offset : Nat} {cs back : List Char}

/-- A `<` of the first text that starts no tag there starts none in the whole: such a tag would end
in the first text. -/
theorem tag?_eq_none (hcut : CutsNoTag offset ('<' :: cs) back) (hnone : tag? cs = none) :
    tag? (cs ++ back) = none := by
  rw [Option.eq_none_iff_forall_ne_some]
  rintro ⟨name, body, rest⟩ hsome
  have hmem : ⟨offset, name, body⟩ ∈ tagMatches offset ('<' :: cs ++ back) := by
    rw [List.cons_append, tagMatches_of_tag? hsome]
    exact List.mem_cons_self
  have hends := hcut _ hmem
  rw [TagMatch.length_text, List.length_cons] at hends
  have hnot : ¬ (tag? cs).isSome := by simp [hnone]
  exact hnot (isSome_tag?_of_append hsome (by dsimp only at hends; omega))

theorem of_tag? {name body rest : List Char} (hcut : CutsNoTag offset ('<' :: cs) back)
    (htag : tag? cs = some (name, body, rest)) :
    CutsNoTag (offset + 1 + name.length + body.length) rest back := by
  intro m hm
  rw [end_of_tag? htag]
  refine hcut m ?_
  rw [List.cons_append, tagMatches_of_tag? (tag?_append_right htag back)]
  exact List.mem_cons_of_mem _ hm

theorem of_skip {c : Char} (hcut : CutsNoTag offset (c :: cs) back)
    (hskip : c = '<' → tag? cs = none) : CutsNoTag (offset + 1) cs back := by
  intro m hm
  rw [Nat.add_right_comm, Nat.add_assoc, ← List.length_cons (a := c)]
  refine hcut m ?_
  rwa [List.cons_append, tagMatches_skip]
  rintro rfl
  exact hcut.tag?_eq_none (hskip rfl)

end CutsNoTag

/-- The tags of a whole are those of its parts also with another second text, if that one does not
let a tag end which had no end before. -/
theorem tagMatches_append_of {offset : Nat} {front back back' : List Char}
    (hcut : CutsNoTag offset front back)
    (hback : ∀ cs, tag? (cs ++ back) = none → tag? (cs ++ back') = none) :
    tagMatches offset (front ++ back') =
      tagMatches offset front ++ tagMatches (offset + front.length) back' := by
  -- along the scan of the first text; the second one stays the same
  induction offset, front using scan_induction with
  | nil offset =>
    rw [tagMatches]
    rfl
  | tag offset cs name body rest h ih =>
    rw [List.cons_append, tagMatches_of_tag? (tag?_append_right h back'), ih (hcut.of_tag? h),
      tagMatches_of_tag? h, List.cons_append, end_of_tag? h]
  | skip offset c cs h ih =>
    have hnone : c = '<' → tag? (cs ++ back') = none := by
      rintro rfl
      exact hback cs (hcut.tag?_eq_none (h rfl))
    rw [List.cons_append, tagMatches_skip hnone, ih (hcut.of_skip h), tagMatches_skip h,
      List.length_cons, Nat.add_right_comm, Nat.add_assoc]

/-- **The tags of a whole are those of its parts**, if no tag is cut. -/
theorem tagMatches_append {offset : Nat} {front back : List Char}
    (hcut : CutsNoTag offset front back) :
    tagMatches offset (front ++ back) =
      tagMatches offset front ++ tagMatches (offset + front.length) back :=
  tagMatches_append_of hcut fun _ hnone => hnone

/-- A tag when `n` characters are put in front of its text. -/
def TagMatch.behind (n : Nat) (m : TagMatch) : TagMatch :=
  { m with offset := n + m.offset }

theorem tagMatches_behind (n offset : Nat) (cs : List Char) :
    tagMatches (n + offset) cs = (tagMatches offset cs).map (TagMatch.behind n) := by
  induction offset, cs using scan_induction with
  | nil offset => simp only [tagMatches, List.map_nil]
  | tag offset cs name body rest h ih =>
    rw [tagMatches_of_tag? h, tagMatches_of_tag? h, List.map_cons, ← ih]
    simp only [TagMatch.behind, Nat.add_assoc]
  | skip offset c cs h ih => rw [tagMatches_skip h, tagMatches_skip h, Nat.add_assoc, ih]

end Markup

/-! ### Results with other ranges -/

/-- An attribute with its range changed. -/
def AttributeOccurrence.mapRange (f : Range → Range) (a : AttributeOccurrence) :
    AttributeOccurrence :=
  { a with range := f a.range }

/-- A tag with its range and the ranges of its attributes changed. -/
def Occurrence.mapRange (f : Range → Range) (o : Occurrence) : Occurrence :=
  { o with range := f o.range, attributes := o.attributes.map (·.mapRange f) }

/-- A finding with its range and the ranges of its explanations changed. -/
def Diagnostic.mapRange (f : Range → Range) (d : Diagnostic) : Diagnostic :=
  { d with
    range := f d.range
    related := d.related.map fun info => { info with range := f info.range } }

theorem Occurrence.mapRange_id (o : Occurrence) : o.mapRange id = o := by
  have hattributes : o.attributes.map (·.mapRange id) = o.attributes :=
    List.map_id o.attributes
  rw [mapRange, hattributes]
  rfl

theorem Occurrence.fault?_mapRange (f : Range → Range) (o : Occurrence)
    (required : String × Attribute) :
    (o.mapRange f).fault? required = (o.fault? required).map (·.mapRange f) := by
  have hattribute : (o.mapRange f).attribute? required.1 =
      (o.attribute? required.1).map (·.mapRange f) := List.find?_map ..
  rw [fault?, fault?, hattribute]
  cases o.attribute? required.1 with
  | none => rfl
  | some a =>
    have hblank : (a.mapRange f).isBlank = a.isBlank := rfl
    have hvalue : (a.mapRange f).value = a.value := rfl
    simp only [Option.map_some, hblank, hvalue]
    split
    · rfl
    · split <;> rfl

theorem Catalogue.faults_mapRange (catalogue : Catalogue) (f : Range → Range) (o : Occurrence) :
    catalogue.faults (o.mapRange f) = (catalogue.faults o).map (·.mapRange f) := by
  have hname : (o.mapRange f).name = o.name := rfl
  rw [faults, faults, hname]
  cases catalogue.element? o.name with
  | none => rfl
  | some element =>
    show element.required.filterMap _ = (element.required.filterMap _).map _
    rw [List.map_filterMap]
    exact List.filterMap_congr fun required _ => o.fault?_mapRange f required

/-! ### Documents one behind the other -/

namespace Document

/-- An attribute that is moved by `n` characters to another document has the range that it is given
there, and is the same otherwise. -/
theorem attributeOccurrence?_mapRange {doc doc' : Document} {n base : Nat} {f : Range → Range}
    {a : AttributeMatch}
    (hrange : doc'.rangeBetween (n + (base + a.offset)) (n + (base + a.offset + a.text.length)) =
      f (doc.rangeBetween (base + a.offset) (base + a.offset + a.text.length))) :
    doc'.attributeOccurrence? (n + base) a =
      (doc.attributeOccurrence? base a).map (·.mapRange f) := by
  unfold attributeOccurrence?
  simp only [Nat.add_assoc] at hrange ⊢
  split
  · rfl
  · rw [hrange]
    rfl

/-- **A tag is read off the ranges of its text.** If the ranges inside a tag are changed by `f` when
the tag is moved by `n` characters to another document, so is all that is read. -/
theorem occurrence_mapRange {doc doc' : Document} {n : Nat} {f : Range → Range} {m : TagMatch}
    (hranges : ∀ start stop, start ≤ stop → stop ≤ m.offset + m.text.length →
      doc'.rangeBetween (n + start) (n + stop) = f (doc.rangeBetween start stop)) :
    doc'.occurrence (m.behind n) = (doc.occurrence m).mapRange f := by
  have hrange : doc'.rangeBetween (n + m.offset) (n + m.offset + m.text.length) =
      f (doc.rangeBetween m.offset (m.offset + m.text.length)) := by
    rw [Nat.add_assoc]
    exact hranges _ _ (Nat.le_add_right _ _) (Nat.le_refl _)
  have hattribute : ∀ a ∈ attributeMatches 0 m.body,
      doc'.attributeOccurrence? (n + (m.offset + 1 + m.name.length)) a =
        (doc.attributeOccurrence? (m.offset + 1 + m.name.length) a).map (·.mapRange f) := by
    intro a ha
    refine attributeOccurrence?_mapRange (hranges _ _ (Nat.le_add_right _ _) ?_)
    -- the attribute ends in the body of the tag
    obtain ⟨before, rest, hbody, hoffset⟩ := mem_attributeMatches ha
    rw [TagMatch.length_text, hbody, hoffset]
    simp only [List.length_append]
    omega
  have hattributes :
      keepLast ((attributeMatches 0 m.body).filterMap
        (doc'.attributeOccurrence? (n + m.offset + 1 + m.name.length))) =
      (keepLast ((attributeMatches 0 m.body).filterMap
        (doc.attributeOccurrence? (m.offset + 1 + m.name.length)))).map (·.mapRange f) := by
    rw [Nat.add_assoc n, Nat.add_assoc n, List.filterMap_congr hattribute, ← List.map_filterMap]
    exact keepLast_map (f := AttributeOccurrence.mapRange f) (fun _ => rfl) _
  show Occurrence.mk _ _ (doc'.rangeBetween (n + m.offset) (n + m.offset + m.text.length))
    (keepLast ((attributeMatches 0 m.body).filterMap
      (doc'.attributeOccurrence? (n + m.offset + 1 + m.name.length)))) = _
  rw [hrange, hattributes]
  rfl

variable {whole first second : Document} (hchars : whole.chars = first.chars ++ second.chars)

include hchars

/-- A place of the first text has the same position in the whole. -/
theorem positionAt_first {o : Nat} (ho : o ≤ first.chars.length) :
    whole.positionAt o = first.positionAt o := by
  rw [positionAt, hchars, List.take_append_of_le_length ho, positionAt]

/-- A place of the second text has its position behind the first text. -/
theorem positionAt_second (o : Nat) :
    whole.positionAt (first.chars.length + o) = (second.positionAt o).behind first.chars := by
  rw [positionAt, hchars, List.take_length_add_append, Position.advanceOver_append,
    ← Position.behind_origin, ← Position.advanceOver_behind, positionAt]

theorem occurrence_first {m : TagMatch} (hm : m ∈ tagMatches 0 first.chars) :
    whole.occurrence m = first.occurrence m := by
  obtain ⟨before, rest, hfirst, hoffset, -⟩ := mem_tagMatches hm
  have hend : m.offset + m.text.length ≤ first.chars.length := by
    rw [hfirst, hoffset]
    simp only [List.length_append]
    omega
  have hsame : m.behind 0 = m := by
    rw [TagMatch.behind, Nat.zero_add]
  have hocc : whole.occurrence (m.behind 0) = (first.occurrence m).mapRange id := by
    refine occurrence_mapRange fun start stop hle hstop => ?_
    rw [Nat.zero_add, Nat.zero_add, rangeBetween, positionAt_first hchars (by omega),
      positionAt_first hchars (by omega)]
    rfl
  rwa [hsame, Occurrence.mapRange_id] at hocc

theorem occurrence_second (m : TagMatch) :
    whole.occurrence (m.behind first.chars.length) =
      (second.occurrence m).mapRange (Range.behind first.chars) := by
  refine occurrence_mapRange fun start stop _ _ => ?_
  rw [rangeBetween, positionAt_second hchars, positionAt_second hchars]
  rfl

/-- **The tags of a document are those of its parts**, if no tag is cut. -/
theorem occurrences_append (hcut : CutsNoTag 0 first.chars second.chars) (catalogue : Catalogue) :
    whole.occurrences catalogue = first.occurrences catalogue ++
      (second.occurrences catalogue).map (·.mapRange (Range.behind first.chars)) := by
  have hmatches : tagMatches 0 whole.chars = tagMatches 0 first.chars ++
      (tagMatches 0 second.chars).map (TagMatch.behind first.chars.length) := by
    rw [hchars, tagMatches_append hcut, Nat.zero_add, ← tagMatches_behind, Nat.add_zero]
  rw [occurrences, hmatches, List.filter_append, List.map_append, List.filter_map, List.map_map,
    occurrences, occurrences, List.map_map]
  congr 1
  · exact List.map_congr_left fun m hm => occurrence_first hchars (List.mem_filter.mp hm).1
  · exact List.map_congr_left fun m _ => occurrence_second hchars m

theorem validate_append (hcut : CutsNoTag 0 first.chars second.chars) (catalogue : Catalogue) :
    catalogue.validate whole = catalogue.validate first ++
      (catalogue.validate second).map (·.mapRange (Range.behind first.chars)) := by
  have hfaults : ∀ o : Occurrence, catalogue.faults (o.mapRange (Range.behind first.chars)) =
      (catalogue.faults o).map (·.mapRange (Range.behind first.chars)) := fun o =>
    catalogue.faults_mapRange _ o
  rw [Catalogue.validate, occurrences_append hchars hcut, List.flatMap_append, List.flatMap_map,
    Catalogue.validate, Catalogue.validate, List.map_flatMap]
  simp only [hfaults]

end Document

/-- **A text is read as its parts are.** Let no tag of `front ++ back`, known or not, start in
`front` and end in `back`. Then the tags of known elements in the whole are those of `front`,
followed by those of `back` with every range, of tags and of attributes, put behind `front`. The
names, texts and values stay as they are. The same holds for the findings and their explanations. -/
theorem readings_compose (catalogue : Catalogue) (front back : List Char) (language : String)
    (hcut : ∀ m ∈ tagMatches 0 (front ++ back),
      ¬ (m.offset < front.length ∧ front.length < m.offset + m.text.length)) :
    let whole : Document := ⟨front ++ back, language⟩
    let first : Document := ⟨front, language⟩
    let second : Document := ⟨back, language⟩
    whole.occurrences catalogue = first.occurrences catalogue ++
      (second.occurrences catalogue).map (·.mapRange (Range.behind front)) ∧
    catalogue.validate whole = catalogue.validate first ++
      (catalogue.validate second).map (·.mapRange (Range.behind front)) := by
  intro whole first second
  have hcuts : CutsNoTag 0 first.chars second.chars := by
    intro m hm
    rw [Nat.zero_add]
    exact hcut m hm
  have hchars : whole.chars = first.chars ++ second.chars := rfl
  exact ⟨Document.occurrences_append hchars hcuts catalogue,
    Document.validate_append hchars hcuts catalogue⟩

/-- The first text ends in a tag whose string has no end. In the whole it has none either, so the
tags of the second text are found. The first of them stays on the last line of the first text. -/
theorem readings_compose_unclosedString :
    let front := "<f-row>\n😀<f-row \"".toList
    let back := "<f-row kind>\n<f-row>".toList
    let whole : Document := ⟨front ++ back, "html"⟩
    (∀ m ∈ tagMatches 0 (front ++ back),
      ¬ (m.offset < front.length ∧ front.length < m.offset + m.text.length)) ∧
    (whole.occurrences rowCatalogue).map (·.range) =
      [.onLine 0 0 7, .onLine 1 9 21, .onLine 2 0 7] ∧
    (rowCatalogue.validate whole).map (fun d => (d.range, d.code)) =
      [(.onLine 0 0 7, "missing-attribute"), (.onLine 1 16 20, "blank-attribute"),
        (.onLine 2 0 7, "missing-attribute")] := by
  intro front back whole
  have hcut : ∀ m ∈ tagMatches 0 (front ++ back),
      ¬ (m.offset < front.length ∧ front.length < m.offset + m.text.length) := by
    decide +kernel
  obtain ⟨hoccurrences, hfindings⟩ := readings_compose rowCatalogue front back "html" hcut
  rw [hoccurrences, hfindings]
  exact ⟨hcut, by decide +kernel, by decide +kernel⟩

end MarkupAssist
