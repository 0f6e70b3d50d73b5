import Mathlib.Data.List.TakeWhile
import MarkupAssist.Cursor.Context
import MarkupAssist.Proofs.AttributeScan
import MarkupAssist.Proofs.EnclosingTag
import MarkupAssist.Proofs.OpenValue
import MarkupAssist.Proofs.TagGrammar
import MarkupAssist.Proofs.TagWalk

/-!
# Hover inside an occurrence

The occurrences of a document are found by one scan of the whole text, which knows
quotes and braces. Documentation at a position is found by looking for brackets,
gaps and equals signs around it. The two are about the same tag and the same
attribute wherever the second way can be expected to work:

* `mem_occurrences`: an occurrence by its place in the text, and
  `mem_attributes`: an attribute of it by its own;
* `Document.Splits.enclosingTag?_inside`: inside a tag with no further brackets the
  brackets around the position are those of the tag;
* `Document.Splits.attributeAround?_inside`: inside an attribute that is written
  without gaps the name around the position is the name of the attribute.

`hoverTarget_inside_occurrence` puts them together.
-/

namespace MarkupAssist

open Text Cursor Markup

/-! ### Where an occurrence stands -/

/-- The range of a piece of text is its place, unless the piece starts or ends inside a line
break. -/
theorem offsetAt_rangeBetween {doc : Document} {front text back : List Char}
    (hchars : doc.chars = front ++ (text ++ back)) (hne : text ≠ [])
    (hhead : text.head? ≠ some '\n') (hlast : text.getLast? ≠ some '\r') :
    doc.offsetAt (doc.rangeBetween front.length (front.length + text.length)).start =
        front.length ∧
      doc.offsetAt (doc.rangeBetween front.length (front.length + text.length)).stop =
        front.length + text.length := by
  constructor
  · obtain ⟨c, cs, rfl⟩ := List.exists_cons_of_ne_nil hne
    exact Document.offsetAt_positionAt_front hchars fun hc => hhead (congrArg some hc)
  · obtain ⟨cs, c, rfl⟩ := (List.eq_nil_or_concat' text).resolve_left hne
    have hsplit : doc.chars = (front ++ cs) ++ c :: back := by
      rw [hchars]
      simp
    have hc : c ≠ '\r' := by
      rintro rfl
      exact hlast List.getLast?_concat
    have h := Document.offsetAt_positionAt_behind hsplit hc
    rwa [List.length_append, Nat.add_assoc, ← List.length_concat, List.concat_eq_append] at h

/-- An occurrence is a tag of the text, and its range is the place of the tag. -/
theorem mem_occurrences {doc : Document} {catalogue : Catalogue} {o : Occurrence}
    (ho : o ∈ doc.occurrences catalogue) :
    ∃ m pre body rest, o = doc.occurrence m ∧ CustomName m.name ∧ m.body = body ++ ['>'] ∧
      m.offset = pre.length ∧ doc.chars = pre ++ '<' :: (m.name ++ body ++ '>' :: rest) := by
  obtain ⟨m, hm, rfl⟩ := List.mem_map.mp ho
  obtain ⟨pre, rest, hchars, hoffset, htag⟩ := mem_tagMatches (List.mem_filter.mp hm).1
  obtain ⟨ts, hshape, hbody, -⟩ := tagShape_of_tag? htag
  refine ⟨m, pre, ts.flatten, rest, rfl, hshape.name_ok, hbody, by rw [hoffset, Nat.zero_add], ?_⟩
  rw [hchars, TagMatch.text, hbody]
  simp

/-- An attribute of an occurrence stands in the body of its tag. -/
theorem mem_attributes {doc : Document} {m : TagMatch} {a : AttributeOccurrence}
    (ha : a ∈ (doc.occurrence m).attributes) :
    ∃ found ∈ attributeMatches 0 m.body, ∃ front back, m.body = front ++ (found.text ++ back) ∧
      a = ⟨String.ofList (dropValueBinding found.name), String.ofList found.text,
        found.value.map String.ofList,
        doc.rangeBetween (m.offset + 1 + m.name.length + front.length)
          (m.offset + 1 + m.name.length + front.length + found.text.length)⟩ := by
  obtain ⟨found, hfound, hsome⟩ := List.mem_filterMap.mp (keepLast_subset _ ha)
  obtain ⟨front, back, hbody, hoffset⟩ := mem_attributeMatches hfound
  refine ⟨found, hfound, front, back, hbody, ?_⟩
  rw [Nat.zero_add] at hoffset
  rw [Document.attributeOccurrence?] at hsome
  split at hsome
  · cases hsome
  · rw [← Option.some.inj hsome, hoffset]

/-! ### The tag -/

/-- **Inside a tag without further brackets the brackets around the cursor are its own.** -/
theorem Document.Splits.enclosingTag?_inside {doc : Document} {above : List (List Char)}
    {before after : List Char} (h : doc.Splits above before after) {pre name body rest : List Char}
    (hchars : doc.chars = pre ++ '<' :: (name ++ body ++ '>' :: rest)) (hname : NameText name)
    (hbody : Quiet (name ++ body)) (hnext : (body ++ ['>']).head?.any endsTagName = true)
    (hlow : pre.length < (unlines above ++ before).length)
    (hhigh : (unlines above ++ before).length < pre.length + (name ++ body).length + 2) :
    doc.enclosingTag? ⟨above.length, before.length⟩ = some (String.ofList name) := by
  have htext : unlines above ++ before ++ after =
      pre ++ ['<'] ++ (name ++ body ++ '>' :: rest) := by
    rw [List.append_assoc, ← h.chars, hchars, ← List.append_cons]
  have hopened : (pre ++ ['<']).length = pre.length + 1 := List.length_append
  obtain ⟨front, back, hcut, hbefore, hafter⟩ :=
    exists_of_append_middle htext (by omega) (by omega)
  have hfront : Quiet front := hbody.of_subset (hcut ▸ List.subset_append_left _ _)
  have hback : Quiet back := hbody.of_subset (hcut ▸ List.subset_append_right _ _)
  have hthrough : throughBracket after = back ++ ['>'] := by
    have hsplit : splitFirst? (· == '>') (back ++ '>' :: rest) = some (back, '>' :: rest) := by
      refine splitFirst?_append_cons (fun c hc => ?_) (by decide)
      simpa using fun heq : c = '>' => hback.2 (heq ▸ hc)
    rw [hafter, throughBracket, hsplit]
  have hinner : front ++ throughBracket after = name ++ (body ++ ['>']) := by
    rw [hthrough, ← List.append_assoc, ← hcut, List.append_assoc]
  rw [← List.append_cons] at hbefore
  refine h.enclosingTag?_eq hbefore hfront.1 hinner hname ?_ fun hmem => ?_
  · cases hhead : (body ++ ['>']).head? with
    | none => rfl
    | some c => simpa [hhead] using hnext
  · -- the `>` is the only bracket that is left
    have hopen : '<' ∉ body := fun hmem => hbody.1 (List.mem_append_right _ hmem)
    simp [hopen] at hmem

/-! ### The attribute -/

theorem dropBinding_eq (name : List Char) :
    dropBinding name = (dropValueBinding name).dropWhile fun c => c == ':' || c == '@' := by
  -- the marks that one of them drops are dropped by the other in two goes
  have hgoes : ∀ cs : List Char,
      (cs.dropWhile (· == ':')).dropWhile (fun c => c == ':' || c == '@') =
        cs.dropWhile fun c => c == ':' || c == '@' := by
    intro cs
    induction cs with
    | nil => rfl
    | cons c cs ih =>
      by_cases hc : c = ':'
      · subst hc
        exact ih
      · rw [List.dropWhile_cons_of_neg (by simpa using hc)]
  rw [dropBinding, dropValueBinding, hgoes]

theorem Document.attributeAround?_of_fragment {doc : Document} {p : Position} {gap : Char}
    {name : List Char} (hgap : isGap gap = true) (hne : name ≠ [])
    (hname : ∀ c ∈ name, isAttributeChar c = true)
    (hfragment : nameFragment? (doc.textBefore p) (doc.textAfter p) = some (gap :: name)) :
    doc.attributeAround? p = some (String.ofList name) := by
  have hblank : ∀ c ∈ name, isBlank c = false := fun c hc => isBlank_of_isAttributeChar (hname c hc)
  have htrim : trim (gap :: name) = name := by
    rw [trim, List.dropWhile_cons_of_pos (isBlank_of_isGap hgap), dropWhile_eq_self hblank,
      dropEndWhile_eq_self hblank]
  have hopen : '<' ∉ gap :: name := by
    intro hmem
    rcases List.mem_cons.mp hmem with rfl | hmem
    · cases hgap
    · exact absurd (hname '<' hmem) (by decide)
  simp only [attributeAround?, hfragment, htrim]
  rw [if_neg]
  simpa [hne] using hopen

section Inside

variable {doc : Document} {above : List (List Char)} {line name raw front back rest : List Char}
  {gap : Char} (h : doc.Splits above (line ++ gap :: front) (back ++ rest))
  (hgap : isGap gap = true) (hname : ∀ c ∈ name, isAttributeChar c = true)
  (hraw : ∀ c ∈ raw, isGap c = false ∧ c ≠ '=') (hcut : name ++ '=' :: raw = front ++ back)

include h hgap hname hraw hcut

/-- In an attribute without gaps the cursor stands in front of the equals sign or behind it. The
name is the same. -/
theorem Document.Splits.nameFragment?_inside :
    nameFragment? (doc.textBefore ⟨above.length, (line ++ gap :: front).length⟩)
      (doc.textAfter ⟨above.length, (line ++ gap :: front).length⟩) = some (gap :: name) := by
  have hnotMem : ∀ d, isAttributeChar d = false → d ∉ name := by
    intro d hd hmem
    rw [hname d hmem] at hd
    cases hd
  have hnogap : ∀ c ∈ name, isGap c = false := by
    intro c hc
    cases hc' : isGap c with
    | false => rfl
    | true => rw [← isBlank_of_isAttributeChar (hname c hc), isBlank_of_isGap hc']
  rw [h.textBefore]
  -- a part of the name that stands behind the cursor is read from there
  have hrest : ∀ more tail, name = front ++ more → back = more ++ '=' :: tail →
      nameFragment? (line ++ gap :: front)
        (doc.textAfter ⟨above.length, (line ++ gap :: front).length⟩) = some (gap :: name) := by
    rintro more tail rfl rfl
    rw [List.append_assoc, List.cons_append] at h
    have hmore : '\n' ∉ more := fun hmem => hnotMem '\n' (by decide) (List.mem_append_right _ hmem)
    obtain ⟨behind, hbehind⟩ := h.exists_textAfter hmore (by decide) (by decide)
    rw [hbehind]
    refine nameFragment?_front hgap (fun c hc => ?_) (fun hmem => ?_) (fun hmem => ?_) _
    · exact hnogap c (List.mem_append_left _ hc)
    · exact hnotMem '=' (by decide) (List.mem_append_left _ hmem)
    · exact hnotMem '=' (by decide) (List.mem_append_right _ hmem)
  rcases List.append_eq_append_iff.mp hcut with ⟨more, hfront, hmore⟩ | ⟨more, hfront, hback⟩
  · cases more with
    | nil => exact hrest [] raw (by rw [hfront]; simp) hmore.symm
    | cons c more =>
      obtain ⟨rfl, hraw'⟩ := List.cons.inj hmore
      rw [hfront]
      refine nameFragment?_behind hgap hnogap (fun c hc => ?_) (fun hmem => ?_) _
      · exact (hraw c (hraw' ▸ List.mem_append_left _ hc)).1
      · exact (hraw '=' (hraw' ▸ List.mem_append_left _ hmem)).2 rfl
  · exact hrest more raw hfront hback

end Inside

/-- An attribute that is written on one line behind a gap: its name, an equals sign and a value,
with no blank around the equals sign and no gap or equals sign in the value. -/
structure AttributeOccurrence.Compact (a : AttributeOccurrence) (doc : Document) : Prop where
  one_line : '\n' ∉ a.rawText.toList
  behind_gap : (doc.textUntil a.range.start).getLast?.any isGap = true
  assigned : ∃ name raw, a.rawText.toList = name ++ '=' :: raw ∧ '=' ∉ name ∧
    name.getLast?.any Text.isBlank = false ∧ raw.head?.any Text.isBlank = false
  value_word : ∀ value ∈ a.value, ∀ c ∈ value.toList, isGap c = false ∧ c ≠ '='

/-- The equals sign and the value stand right behind the name. -/
theorem Markup.AttributeText.exists_raw {name text : List Char} {value : Option (List Char)}
    (h : AttributeText name text value) (hname : ∀ c ∈ name, isAttributeChar c = true)
    {name' raw' : List Char} (htext : text = name' ++ '=' :: raw') (hequals : '=' ∉ name')
    (hleft : name'.getLast?.any isBlank = false) (hright : raw'.head?.any isBlank = false) :
    ∃ raw inner, text = name ++ '=' :: raw ∧ value = some inner ∧ ValueText raw inner := by
  have hnotMem : '=' ∉ name := fun hmem => absurd (hname '=' hmem) (by decide)
  cases h with
  | bare =>
    -- a name alone has no equals sign
    exact absurd (htext ▸ List.mem_append_right _ List.mem_cons_self) hnotMem
  | @assigned left right raw inner hblankLeft hblankRight hvalue =>
    have hfree : '=' ∉ name ++ left := by
      rw [List.mem_append, not_or]
      exact ⟨hnotMem, fun hmem => absurd (hblankLeft '=' hmem) (by decide)⟩
    rw [← List.append_assoc] at htext
    obtain ⟨rfl, rfl⟩ := append_cons_unique hfree hequals htext
    obtain rfl : left = [] := by
      rcases List.eq_nil_or_concat' left with rfl | ⟨front, c, rfl⟩
      · rfl
      · rw [← List.append_assoc, List.getLast?_concat] at hleft
        exact absurd (hblankLeft c (by simp)) (by simpa using hleft)
    obtain rfl : right = [] := by
      cases right with
      | nil => rfl
      | cons c right => exact absurd (hblankRight c List.mem_cons_self) (by simpa using hright)
    exact ⟨raw, inner, rfl, rfl, hvalue⟩

/-- What encloses a value is no gap and no equals sign. -/
theorem Markup.ValueText.word {raw value : List Char} (h : ValueText raw value)
    (hvalue : ∀ c ∈ value, isGap c = false ∧ c ≠ '=') : ∀ c ∈ raw, isGap c = false ∧ c ≠ '=' := by
  intro c hc
  rcases h.mem hc with hc | hc | rfl | rfl
  · exact hvalue c hc
  · rcases eq_of_isQuote hc with rfl | rfl <;> decide
  · decide
  · decide

/-- An attribute with a value does not end inside a line break. -/
theorem Markup.ValueText.getLast?_ne {raw value : List Char} (h : ValueText raw value)
    (name : List Char) : (name ++ '=' :: raw).getLast? ≠ some '\r' := by
  obtain ⟨most, last, rfl, hblank⟩ := h.exists_last
  rw [← List.cons_append, ← List.append_assoc, List.getLast?_concat]
  intro hreturn
  rw [Option.some.inj hreturn] at hblank
  cases hblank

/-- **Inside a compact attribute the name around the cursor is the one that is written.** -/
theorem Document.Splits.attributeAround?_inside {doc : Document} {above : List (List Char)}
    {before after : List Char} (h : doc.Splits above before after) {m : TagMatch}
    {pre rest : List Char} (hchars : doc.chars = pre ++ '<' :: (m.name ++ (m.body ++ rest)))
    (hoffset : m.offset = pre.length) {a : AttributeOccurrence}
    (ha : a ∈ (doc.occurrence m).attributes) (hcompact : a.Compact doc)
    (hlow : doc.offsetAt a.range.start ≤ (unlines above ++ before).length)
    (hhigh : (unlines above ++ before).length ≤ doc.offsetAt a.range.stop) :
    ∃ name, doc.attributeAround? ⟨above.length, before.length⟩ = some (String.ofList name) ∧
      a.name = String.ofList (dropValueBinding name) := by
  obtain ⟨found, hfound, front, back, hbody, rfl⟩ := mem_attributes ha
  obtain ⟨hne, hname, hshape⟩ := attributeText_of_mem hfound
  obtain ⟨hfeed, hbehind, ⟨name', raw', htext', hequals, hleft, hright⟩, hword⟩ := hcompact
  simp only [String.toList_ofList] at hfeed htext'
  obtain ⟨raw, inner, htext, hvalue, hraw⟩ := hshape.exists_raw hname htext' hequals hleft hright
  set start := pre ++ '<' :: (m.name ++ front) with hstart
  have hchars' : doc.chars = start ++ (found.text ++ (back ++ rest)) := by
    rw [hchars, hbody]
    simp [hstart]
  have hlength : m.offset + 1 + m.name.length + front.length = start.length := by
    simp only [hstart, hoffset, List.length_append, List.length_cons]
    omega
  -- neither end of the attribute is inside a line break, so its range is its place
  have hhead : found.text.head? ≠ some '\n' := fun hmem => hfeed (List.mem_of_mem_head? hmem)
  have hlast : found.text.getLast? ≠ some '\r' := htext ▸ hraw.getLast?_ne found.name
  have hrange := offsetAt_rangeBetween hchars' (by simp [htext]) hhead hlast
  simp only [hlength] at hlow hhigh hbehind
  rw [hrange.1] at hlow
  rw [hrange.2] at hhigh
  obtain ⟨most, gap, hmost, hgap⟩ : ∃ most gap, start = most ++ [gap] ∧ isGap gap = true := by
    rw [Document.textUntil, hrange.1, hchars', List.take_left] at hbehind
    rcases List.eq_nil_or_concat' start with hnil | ⟨most, gap, hmost⟩
    · rw [hnil] at hbehind
      cases hbehind
    · rw [hmost, List.getLast?_concat] at hbehind
      exact ⟨most, gap, hmost, hbehind⟩
  have htext'' : unlines above ++ before ++ after = start ++ (found.text ++ (back ++ rest)) := by
    rw [List.append_assoc, ← h.chars, hchars']
  obtain ⟨part, more, hpart, huntil, rfl⟩ := exists_of_append_middle htext'' hlow hhigh
  -- the attribute has no line break, so the gap in front of it is on the cursor line
  obtain ⟨line, -, rfl⟩ : ∃ line, most = unlines above ++ line ∧ before = line ++ gap :: part := by
    refine exists_of_unlines_append ?_ ?_
    · rw [huntil, hmost, List.append_assoc, List.singleton_append]
    · rw [hpart, List.mem_append, not_or] at hfeed
      rw [List.mem_cons, not_or]
      refine ⟨?_, hfeed.1⟩
      rintro rfl
      cases hgap
  have hplain : ∀ c ∈ raw, isGap c = false ∧ c ≠ '=' := by
    refine hraw.word fun c hc => hword (String.ofList inner) ?_ c ?_
    · rw [hvalue]
      rfl
    · rwa [String.toList_ofList]
  refine ⟨found.name, ?_, rfl⟩
  exact attributeAround?_of_fragment hgap hne hname
    (h.nameFragment?_inside hgap hname hplain (htext.symm.trans hpart))

/-! ### The agreement -/

/-- **Documentation is asked for the occurrence that the cursor is in.** Between the brackets of an
occurrence that has no others, the tag is its name. In an attribute of it that is written without
gaps, the attribute is its name without marks. -/
theorem hoverTarget_inside_occurrence {doc : Document} {catalogue : Catalogue} {o : Occurrence}
    (ho : o ∈ doc.occurrences catalogue) (hquiet : Quiet o.rawText.toList.tail.dropLast)
    (hnext : (o.rawText.toList.drop (o.name.toList.length + 1)).head?.any endsTagName = true)
    {p : Position} {line : List Char} (hline : doc.line? p.line = some line)
    (hafter : doc.offsetAt o.range.start < doc.offsetAt p)
    (hbefore : doc.offsetAt p < doc.offsetAt o.range.stop) :
    (doc.hoverTarget p).tag = some o.name ∧
      ∀ a ∈ o.attributes, a.Compact doc → doc.offsetAt a.range.start ≤ doc.offsetAt p →
        doc.offsetAt p ≤ doc.offsetAt a.range.stop →
        (doc.hoverTarget p).name =
          some (String.ofList (a.name.toList.dropWhile fun c => c == ':' || c == '@')) := by
  obtain ⟨m, pre, body, rest, rfl, hname, hbody, hoffset, hchars⟩ := mem_occurrences ho
  have htext : m.text = ('<' :: (m.name ++ body)) ++ ['>'] := by
    rw [TagMatch.text, hbody, List.cons_append, List.append_assoc]
  obtain ⟨above, before, after, hsplits, hclamp⟩ := Document.exists_splits hline
  have hoff : doc.offsetAt p = (unlines above ++ before).length := by
    rw [← Document.offsetAt_clamp hline, hclamp, hsplits.offsetAt]
  simp only [Document.hoverTarget, hclamp]
  constructor
  · have hplace : doc.chars = pre ++ (m.text ++ rest) := by
      rw [hchars, htext]
      simp
    -- a tag starts and ends with a bracket, so its range is its place
    have hrange := offsetAt_rangeBetween hplace (by simp [htext]) (by simp [htext])
      (by rw [htext, List.getLast?_concat]; decide)
    rw [← hoffset] at hrange
    rw [show doc.offsetAt (doc.occurrence m).range.start = m.offset from hrange.1, hoff] at hafter
    rw [show doc.offsetAt (doc.occurrence m).range.stop = m.offset + m.text.length from hrange.2,
      hoff] at hbefore
    have hlength : m.text.length = (m.name ++ body).length + 2 := by
      rw [htext, List.length_append, List.length_cons]
      rfl
    refine hsplits.enclosingTag?_inside hchars hname.nameText ?_ ?_ ?_ ?_
    · simpa [Document.occurrence, htext] using hquiet
    · have hdrop : m.text.drop (m.name.length + 1) = body ++ ['>'] := by
        rw [htext]
        simp
      rwa [Document.occurrence, String.toList_ofList, String.toList_ofList, hdrop] at hnext
    · rwa [hoffset] at hafter
    · rw [hoffset, hlength] at hbefore
      omega
  · intro a ha hcompact hlow hhigh
    have hchars' : doc.chars = pre ++ '<' :: (m.name ++ (m.body ++ rest)) := by
      rw [hchars, hbody]
      simp
    rw [hoff] at hlow hhigh
    obtain ⟨name, haround, hname'⟩ :=
      hsplits.attributeAround?_inside hchars' hoffset ha hcompact hlow hhigh
    rw [haround, hname']
    simp [dropBinding_eq]

/-- A text with a tag on two lines. -/
def pickRow : Document :=
  ⟨"a\n<f-row\n  @pick='go' wide>b".toList, "vue"⟩

/-- The attribute of the tag that has a value. -/
def pickAttribute : AttributeOccurrence :=
  ⟨"@pick", "@pick='go'", some "go", ⟨⟨2, 2⟩, ⟨2, 12⟩⟩⟩

/-- The tag. -/
def pickTag : Occurrence :=
  ⟨"f-row", "<f-row\n  @pick='go' wide>", ⟨⟨1, 0⟩, ⟨2, 18⟩⟩,
    [pickAttribute, ⟨"wide", "wide", none, ⟨⟨2, 13⟩, ⟨2, 17⟩⟩⟩]⟩

/-- Behind the `@` of an attribute on the second line of a tag. -/
theorem hoverTarget_pickRow :
    pickRow.occurrences { elements := [("f-row", { category := "layout" })] } = [pickTag] ∧
      (pickRow.hoverTarget ⟨2, 3⟩).tag = some "f-row" ∧
      (pickRow.hoverTarget ⟨2, 3⟩).name = some "pick" := by
  have hfound : pickRow.occurrences { elements := [("f-row", { category := "layout" })] } =
      [pickTag] := by
    decide +kernel
  have hline : pickRow.line? 2 = some "  @pick='go' wide>b".toList := by decide
  have hquiet : Quiet pickTag.rawText.toList.tail.dropLast := ⟨by decide, by decide⟩
  have hnext : (pickTag.rawText.toList.drop (pickTag.name.toList.length + 1)).head?.any
      endsTagName = true := by decide
  have hcompact : pickAttribute.Compact pickRow := by
    refine ⟨by decide, by decide,
      ⟨"@pick".toList, "'go'".toList, by decide, by decide, by decide, by decide⟩, ?_⟩
    rintro value hvalue
    obtain rfl : "go" = value := Option.some.inj hvalue
    show ∀ c ∈ ['g', 'o'], isGap c = false ∧ c ≠ '='
    exact List.forall_mem_cons.mpr ⟨by decide, List.forall_mem_singleton.mpr (by decide)⟩
  have hinside := hoverTarget_inside_occurrence (p := ⟨2, 3⟩) (hfound ▸ List.mem_cons_self) hquiet
    hnext hline (by decide +kernel) (by decide +kernel)
  exact ⟨hfound, hinside.1,
    hinside.2 pickAttribute List.mem_cons_self hcompact (by decide +kernel) (by decide +kernel)⟩

end MarkupAssist
