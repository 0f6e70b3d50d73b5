import Mathlib.Data.List.Basic
import MarkupAssist.Completion.Complete
import MarkupAssist.Diagnostic
import MarkupAssist.Documentation
import MarkupAssist.Proofs.CarriageReturn
import MarkupAssist.Proofs.Lines

/-!
# Answers do not depend on line endings

`Document.crlf` is a document with a carriage return in front of every line feed.
If the document had no carriage return, it has the same lines, so every question
about the text of a line has the same answer. What is read from the whole text is
rewritten by `crlf`, and positions found in it stay the same:

* slices: `textUntil_crlf`, `textFrom_crlf`, `textInRange_crlf`;
* the cursor: `enclosingTag?_crlf`, `openTag?_crlf`, `context_crlf`;
* opening tags: `occurrences_crlf`.

`answers_crlf` draws the conclusion for completion, documentation and findings.
The only number that changes is the offset of an open tag, which counts the
carriage returns.
-/

namespace MarkupAssist

open Text Markup

/-- The document with a carriage return in front of every line feed. -/
def Document.crlf (doc : Document) : Document :=
  { doc with chars := Text.crlf doc.chars }

theorem crlf_unlines {above : List (List Char)} (habove : ∀ l ∈ above, '\n' ∉ l) :
    crlf (unlines above) = unlines (above.map (· ++ ['\r'])) := by
  induction above with
  | nil => rfl
  | cons line above ih =>
    rw [unlines_cons, crlf_append, crlf_eq_self (habove line List.mem_cons_self), crlf_newline,
      ih fun l hl => habove l (List.mem_cons_of_mem _ hl), List.map_cons, unlines_cons]
    simp

namespace Document

/-! ### Lines and slices -/

section Slices

variable {doc : Document} (hreturn : '\r' ∉ doc.chars)

include hreturn

/-- **The lines are the same.** -/
theorem map_dropReturn_rawLines_crlf :
    doc.crlf.rawLines.map dropReturn = doc.rawLines.map dropReturn := by
  obtain ⟨lines, last, hchars, hlines, hlast⟩ := exists_unlines doc.chars
  have hchars' : doc.crlf.chars = unlines (lines.map (· ++ ['\r'])) ++ last := by
    rw [Document.crlf, hchars, crlf_append, crlf_unlines hlines, crlf_eq_self hlast]
  have hlines' : ∀ l ∈ lines.map (· ++ ['\r']), '\n' ∉ l := by
    intro l hl
    obtain ⟨line, hline, rfl⟩ := List.mem_map.mp hl
    simpa using hlines line hline
  rw [rawLines_eq hchars hlines hlast, rawLines_eq hchars' hlines' hlast, List.map_append,
    List.map_append, List.map_map]
  congr 1
  refine List.map_congr_left fun line hline => ?_
  -- the carriage return that is dropped is the one that was added
  have hnone : '\r' ∉ line := by
    intro hmem
    apply hreturn
    rw [hchars]
    exact List.mem_append_left _ (subset_unlines hline hmem)
  rw [dropReturn_eq_self hnone]
  simp [dropReturn]

theorem line?_crlf (n : Nat) : doc.crlf.line? n = doc.line? n := by
  rw [line?, line?, ← List.getElem?_map, ← List.getElem?_map,
    map_dropReturn_rawLines_crlf hreturn]

theorem textBefore_crlf (p : Position) : doc.crlf.textBefore p = doc.textBefore p := by
  rw [textBefore, textBefore, lineText, lineText, line?_crlf hreturn]

theorem textAfter_crlf (p : Position) : doc.crlf.textAfter p = doc.textAfter p := by
  rw [textAfter, textAfter, lineText, lineText, line?_crlf hreturn]

theorem clamp_crlf (p : Position) : doc.crlf.clamp p = doc.clamp p := by
  have hend : doc.crlf.endPosition = doc.endPosition := advanceOver_crlf _ _
  rw [clamp, clamp, line?_crlf hreturn, hend]

theorem linesAbove_crlf (n : Nat) : doc.crlf.linesAbove n = doc.linesAbove n := by
  rw [linesAbove, linesAbove, List.map_drop, List.map_drop, List.map_take, List.map_take,
    map_dropReturn_rawLines_crlf hreturn]

theorem inScript_crlf (p : Position) : doc.crlf.inScript p = doc.inScript p := by
  rw [inScript, inScript, List.map_take, List.map_take, map_dropReturn_rawLines_crlf hreturn]

/-- A cut of the document is one of the rewritten document. -/
theorem Splits.crlf {above : List (List Char)} {before after : List Char}
    (h : doc.Splits above before after) :
    doc.crlf.Splits (above.map (· ++ ['\r'])) before (Text.crlf after) := by
  refine splits_of_chars ?_ ?_ h.before_line ?_
  · rw [Document.crlf, h.chars, crlf_append, crlf_unlines h.above_lines, crlf_append,
      crlf_eq_self h.before_line]
  · intro l hl
    obtain ⟨line, hline, rfl⟩ := List.mem_map.mp hl
    simpa using h.above_lines line hline
  · intro _ hlast
    apply hreturn
    rw [h.chars]
    simp [List.mem_of_getLast? hlast]

/-- The number of characters before a position counts the carriage returns. -/
theorem offsetAt_crlf (p : Position) :
    doc.crlf.offsetAt p = (Text.crlf (doc.textUntil p)).length := by
  cases hline : doc.line? p.line with
  | none =>
    -- behind the last line the offset is the length of the text
    have hline' := line?_crlf hreturn p.line
    rw [textUntil, offsetAt, offsetAt, hline', hline, List.take_length]
    rfl
  | some line =>
    obtain ⟨above, before, after, hsplits, hclamp⟩ := exists_splits hline
    have hline' := (line?_crlf hreturn p.line).trans hline
    have huntil : doc.textUntil p = unlines above ++ before := by
      rw [← hsplits.textUntil, ← hclamp, textUntil_clamp hline]
    have hoffset := (hsplits.crlf hreturn).offsetAt
    rw [List.length_map, ← hclamp, ← clamp_crlf hreturn, offsetAt_clamp hline'] at hoffset
    rw [hoffset, huntil, crlf_append, crlf_unlines hsplits.above_lines,
      crlf_eq_self hsplits.before_line]

theorem textUntil_crlf (p : Position) :
    doc.crlf.textUntil p = Text.crlf (doc.textUntil p) := by
  rw [textUntil, offsetAt_crlf hreturn]
  change (Text.crlf doc.chars).take _ = _
  rw [textUntil_append_textFrom doc p, crlf_append, List.take_left]

theorem textFrom_crlf (p : Position) : doc.crlf.textFrom p = Text.crlf (doc.textFrom p) := by
  rw [textFrom, offsetAt_crlf hreturn]
  change (Text.crlf doc.chars).drop _ = _
  rw [textUntil_append_textFrom doc p, crlf_append, List.drop_left]

theorem textInRange_crlf (range : Range) :
    doc.crlf.textInRange range = Text.crlf (doc.textInRange range) := by
  have hrange : doc.textInRange range =
      (doc.textUntil range.stop).drop (doc.offsetAt range.start) := rfl
  have hrange' : doc.crlf.textInRange range =
      (doc.crlf.textUntil range.stop).drop (doc.crlf.offsetAt range.start) := rfl
  rw [hrange, hrange', textUntil_crlf hreturn, offsetAt_crlf hreturn]
  rcases Nat.le_total (doc.offsetAt range.start) (doc.offsetAt range.stop) with hle | hle
  · have hsplit : doc.textUntil range.stop = doc.textUntil range.start ++
        (doc.textUntil range.stop).drop (doc.offsetAt range.start) := by
      have h := (List.take_append_drop (doc.offsetAt range.start) (doc.textUntil range.stop)).symm
      rwa [textUntil, List.take_take, Nat.min_eq_left hle] at h
    rw [hsplit, crlf_append, List.drop_left, ← hsplit]
  · -- the range ends before it starts, and so it does in the rewritten text
    have hsplit : doc.textUntil range.start = doc.textUntil range.stop ++
        (doc.textUntil range.start).drop (doc.offsetAt range.stop) := by
      have h := (List.take_append_drop (doc.offsetAt range.stop) (doc.textUntil range.start)).symm
      rwa [textUntil, List.take_take, Nat.min_eq_left hle] at h
    rw [hsplit, crlf_append, List.length_append, ← List.drop_drop, List.drop_length,
      List.drop_nil, List.drop_eq_nil_of_le]
    · rfl
    · exact (List.length_take_le _ _).trans hle

end Slices

end Document

/-! ### The cursor -/

namespace Cursor

theorem throughBracket_crlf (cs : List Char) :
    throughBracket (crlf cs) = crlf (throughBracket cs) := by
  rw [throughBracket, splitFirst?_crlf (by decide), throughBracket]
  cases splitFirst? (· == '>') cs with
  | none => rfl
  | some found => exact (crlf_append found.1 ['>']).symm

/-- A tag name is read up to the first separator, and both characters are separators. -/
theorem nameRegion_crlf (inner : List Char) : nameRegion (crlf inner) = nameRegion inner := by
  by_cases hany : inner.any isSeparator = true
  · rw [nameRegion, any_crlf (by decide), if_pos hany, nameRegion, if_pos hany]
    exact takeWhile_crlf_eq (by decide) (by decide) inner
  · rw [crlf_eq_self]
    intro hmem
    exact hany (List.any_eq_true.mpr ⟨'\n', hmem, by decide⟩)

end Cursor

/-- A token with its place counted in the document with other line endings. -/
def TagToken.crlf (doc : Document) (token : TagToken) : TagToken :=
  { token with offset := token.offset + (doc.chars.take token.offset).count '\n' }

/-- A context with its place counted in the document with other line endings. -/
def CursorContext.crlf (doc : Document) : CursorContext → CursorContext
  | .attributeName tag => .attributeName (tag.crlf doc)
  | context => context

namespace Document

open Cursor

section Context

variable {doc : Document} (hreturn : '\r' ∉ doc.chars)

include hreturn

theorem valueQuote?_crlf (p : Position) : doc.crlf.valueQuote? p = doc.valueQuote? p := by
  rw [valueQuote?, valueQuote?, textBefore_crlf hreturn]

theorem attributeBefore?_crlf (p : Position) :
    doc.crlf.attributeBefore? p = doc.attributeBefore? p := by
  rw [attributeBefore?, attributeBefore?, textBefore_crlf hreturn]

theorem attributeAround?_crlf (p : Position) :
    doc.crlf.attributeAround? p = doc.attributeAround? p := by
  rw [attributeAround?, attributeAround?, textBefore_crlf hreturn, textAfter_crlf hreturn]

theorem enclosingTag?_crlf (p : Position) : doc.crlf.enclosingTag? p = doc.enclosingTag? p := by
  simp only [enclosingTag?, clamp_crlf hreturn, textUntil_crlf hreturn, textFrom_crlf hreturn,
    throughBracket_crlf]
  rw [splitLast?_crlf (by decide) (by decide)]
  cases hcut : splitLast? (· == '<') (doc.textUntil (doc.clamp p)) with
  | none => rfl
  | some found =>
    -- the fragment starts with its bracket, which is dropped before the name is read
    obtain ⟨a, tail, htail, ha⟩ := exists_of_splitLast? hcut
    obtain rfl : a = '<' := by simpa using ha
    obtain ⟨before, fragment⟩ := found
    obtain rfl : fragment = '<' :: tail := htail
    simp only [Option.map_some, Prod.map_apply, crlf_cons (show '<' ≠ '\n' by decide),
      List.tail_cons, ← crlf_append, nameRegion_crlf]
    rfl

theorem tagToken?_crlf (n : Nat) (tags : List (Nat × List Char)) :
    doc.crlf.tagToken? n tags = (doc.tagToken? n tags).map (TagToken.crlf doc) := by
  rw [tagToken?, tagToken?, Option.map_map]
  congr 1
  funext tag
  have hoffset := offsetAt_crlf hreturn ⟨n, tag.1⟩
  rw [length_crlf, length_textUntil] at hoffset
  exact congrArg (TagToken.mk _) hoffset

theorem openTagAbove?_crlf (n : Nat) (lines : List (List Char)) :
    doc.crlf.openTagAbove? n lines = (doc.openTagAbove? n lines).map (TagToken.crlf doc) := by
  induction lines generalizing n with
  | nil => rfl
  | cons line lines ih =>
    rw [openTagAbove?, openTagAbove?, tagToken?_crlf hreturn, ih]
    split
    · rfl
    · cases doc.tagToken? n (openTags true line) <;> rfl

theorem openTag?_crlf (p : Position) :
    doc.crlf.openTag? p = (doc.openTag? p).map (TagToken.crlf doc) := by
  simp only [openTag?, clamp_crlf hreturn, textBefore_crlf hreturn, linesAbove_crlf hreturn,
    tagToken?_crlf hreturn, openTagAbove?_crlf hreturn]
  split
  · rfl
  · cases doc.tagToken? (doc.clamp p).line (openTags false (doc.textBefore (doc.clamp p))) <;> rfl

theorem context_crlf (p : Position) : doc.crlf.context p = (doc.context p).crlf doc := by
  have hvalue : doc.crlf.valueContext? (doc.clamp p) = doc.valueContext? (doc.clamp p) := by
    simp only [valueContext?, valueQuote?_crlf hreturn, enclosingTag?_crlf hreturn,
      attributeBefore?_crlf hreturn, attributeAround?_crlf hreturn]
  simp only [context, clamp_crlf hreturn, hvalue, openTag?_crlf hreturn, textBefore_crlf hreturn]
  cases doc.valueContext? (doc.clamp p) with
  | some found => rfl
  | none =>
    cases doc.openTag? (doc.clamp p) with
    | some tag => rfl
    | none => cases typedTag? (doc.textBefore (doc.clamp p)) <;> rfl

theorem hoverTarget_crlf (p : Position) : doc.crlf.hoverTarget p = doc.hoverTarget p := by
  simp only [hoverTarget, clamp_crlf hreturn, enclosingTag?_crlf hreturn,
    attributeAround?_crlf hreturn]

theorem wordRange?_crlf (p : Position) : doc.crlf.wordRange? p = doc.wordRange? p := by
  simp only [wordRange?, clamp_crlf hreturn, textBefore_crlf hreturn, textAfter_crlf hreturn]

theorem tagsAllowed_crlf (p : Position) : doc.crlf.tagsAllowed p = doc.tagsAllowed p := by
  rw [tagsAllowed, inScript_crlf hreturn]
  rfl

end Context

end Document

/-! ### Opening tags -/

/-- An attribute whose text has other line endings. -/
def AttributeOccurrence.crlf (a : AttributeOccurrence) : AttributeOccurrence :=
  { a with
    rawText := String.ofList (Text.crlf a.rawText.toList)
    value := a.value.map fun value => String.ofList (Text.crlf value.toList) }

/-- A tag whose text has other line endings. -/
def Occurrence.crlf (o : Occurrence) : Occurrence :=
  { o with
    rawText := String.ofList (Text.crlf o.rawText.toList)
    attributes := o.attributes.map AttributeOccurrence.crlf }

theorem keepLast_map {f : AttributeOccurrence → AttributeOccurrence} (hf : ∀ a, (f a).name = a.name)
    (attributes : List AttributeOccurrence) :
    keepLast (attributes.map f) = (keepLast attributes).map f := by
  -- generalised over the attributes that have been kept so far
  suffices hfold : ∀ kept : List AttributeOccurrence,
      (attributes.map f).foldl (fun kept a => kept.filter (·.name != a.name) ++ [a]) (kept.map f) =
        (attributes.foldl (fun kept a => kept.filter (·.name != a.name) ++ [a]) kept).map f from
    hfold []
  induction attributes with
  | nil => exact fun _ => rfl
  | cons a attributes ih =>
    intro kept
    rw [List.map_cons, List.foldl_cons, List.foldl_cons, ← ih, List.map_append, List.filter_map]
    simp only [Function.comp_def, hf]
    rfl

namespace Document

variable {doc : Document}

/-- A piece of the text has the same range. -/
theorem rangeBetween_crlf {before piece after : List Char}
    (hchars : doc.chars = before ++ (piece ++ after)) :
    doc.crlf.rangeBetween (Text.crlf before).length
        ((Text.crlf before).length + (Text.crlf piece).length) =
      doc.rangeBetween before.length (before.length + piece.length) := by
  have hposition : ∀ front back : List Char, doc.chars = front ++ back →
      doc.crlf.positionAt (Text.crlf front).length = doc.positionAt front.length := by
    intro front back hsplit
    rw [positionAt, positionAt, Document.crlf, hsplit, crlf_append, List.take_left,
      List.take_left, advanceOver_crlf]
  have hstop := hposition (before ++ piece) after (by rw [hchars, List.append_assoc])
  rw [crlf_append, List.length_append, List.length_append] at hstop
  rw [rangeBetween, rangeBetween, hposition before _ hchars, hstop]

theorem attributeOccurrence?_crlf {start body rest : List Char}
    (hchars : doc.chars = start ++ (body ++ rest)) {m : AttributeMatch}
    (hm : m ∈ attributeMatches 0 body) :
    doc.crlf.attributeOccurrence? (Text.crlf start).length (m.crlf body) =
      (doc.attributeOccurrence? start.length m).map AttributeOccurrence.crlf := by
  obtain ⟨before, after, rfl, hoffset⟩ := mem_attributeMatches hm
  rw [Nat.zero_add] at hoffset
  have hchars' : doc.chars = (start ++ before) ++ (m.text ++ (after ++ rest)) := by simp [hchars]
  have hrange := rangeBetween_crlf hchars'
  rw [crlf_append, List.length_append, List.length_append] at hrange
  simp only [attributeOccurrence?, AttributeMatch.crlf, hoffset, List.take_left]
  split
  · rfl
  · rw [hrange]
    simp [AttributeOccurrence.crlf, Function.comp_def]

theorem occurrence_crlf {m : TagMatch} (hm : m ∈ tagMatches 0 doc.chars) :
    doc.crlf.occurrence (m.crlf doc.chars) = (doc.occurrence m).crlf := by
  obtain ⟨before, rest, hchars, hoffset, htag⟩ := mem_tagMatches hm
  obtain ⟨ts, hshape, -, -⟩ := tagShape_of_tag? htag
  have hself := crlf_eq_self (hshape.name_ok.notMem (c := '\n') (by decide))
  rw [Nat.zero_add] at hoffset
  have htake : doc.chars.take m.offset = before := by rw [hchars, hoffset, List.take_left]
  have htext : Text.crlf m.text = '<' :: (m.name ++ Text.crlf m.body) := by
    rw [TagMatch.text, crlf_cons (by decide), crlf_append, hself]
  have hrange := rangeBetween_crlf hchars
  -- the body stands behind the start of the tag
  have hbody : doc.chars = (before ++ '<' :: m.name) ++ (m.body ++ rest) := by
    rw [hchars, TagMatch.text]
    simp
  have hbase : (Text.crlf (before ++ '<' :: m.name)).length =
      (Text.crlf before).length + 1 + m.name.length := by
    rw [crlf_append, crlf_cons (by decide), hself]
    simp only [List.length_append, List.length_cons]
    omega
  have hattributes : (attributeMatches 0 (Text.crlf m.body)).filterMap
        (doc.crlf.attributeOccurrence? ((Text.crlf before).length + 1 + m.name.length)) =
      ((attributeMatches 0 m.body).filterMap
        (doc.attributeOccurrence? (before.length + 1 + m.name.length))).map
          AttributeOccurrence.crlf := by
    have hmatches := attributeMatches_crlf [] m.body
    have hlength : (before ++ '<' :: m.name).length = before.length + 1 + m.name.length := by
      simp only [List.length_append, List.length_cons]
      omega
    rw [crlf_nil, List.length_nil, List.nil_append] at hmatches
    rw [hmatches, List.filterMap_map, List.map_filterMap, ← hbase, ← hlength]
    exact List.filterMap_congr fun a ha => attributeOccurrence?_crlf hbody ha
  have hkeep := keepLast_map (f := AttributeOccurrence.crlf) (fun _ => rfl)
  have hmatch : m.crlf doc.chars = ⟨(Text.crlf before).length, m.name, Text.crlf m.body⟩ := by
    rw [TagMatch.crlf, htake]
  simp only [occurrence, Occurrence.crlf, hmatch, hoffset, hattributes, hkeep, TagMatch.text]
  simp only [TagMatch.text] at htext hrange
  rw [← htext, hrange, String.toList_ofList]

theorem occurrences_crlf (catalogue : Catalogue) :
    doc.crlf.occurrences catalogue = (doc.occurrences catalogue).map Occurrence.crlf := by
  have hmatches := tagMatches_crlf [] doc.chars
  rw [crlf_nil, List.length_nil, List.nil_append] at hmatches
  rw [occurrences, Document.crlf, hmatches, List.filter_map, occurrences, List.map_map,
    List.map_map]
  exact List.map_congr_left fun m hm => occurrence_crlf (List.mem_filter.mp hm).1

end Document

/-! ### Answers -/

theorem AttributeOccurrence.isBlank_crlf (a : AttributeOccurrence) :
    a.crlf.isBlank = a.isBlank := by
  rw [AttributeOccurrence.isBlank, AttributeOccurrence.isBlank, AttributeOccurrence.crlf,
    Option.all_map]
  refine congrArg (Option.all · a.value) (funext fun value => ?_)
  rw [String.toList_ofList, all_crlf (by decide)]

theorem Occurrence.attribute?_crlf (o : Occurrence) (name : String) :
    o.crlf.attribute? name = (o.attribute? name).map AttributeOccurrence.crlf :=
  List.find?_map ..

theorem Occurrence.fault?_crlf (o : Occurrence) (required : String × Attribute) :
    o.crlf.fault? required = o.fault? required := by
  rw [fault?, attribute?_crlf, fault?]
  cases o.attribute? required.1 with
  | none => rfl
  | some a =>
    have hnone : a.crlf.value.isNone = a.value.isNone := Option.isNone_map
    simp only [Option.map_some, AttributeOccurrence.isBlank_crlf, hnone]
    rfl

namespace Completion

theorem slotIndex_crlf (typed : List Char) : slotIndex (crlf typed) = slotIndex typed := by
  rw [slotIndex, dropWhile_crlf (by decide), count_crlf (by decide), slotIndex]

end Completion

namespace Catalogue

variable (catalogue : Catalogue) {doc : Document}

theorem validate_crlf : catalogue.validate doc.crlf = catalogue.validate doc := by
  have hfaults : ∀ o : Occurrence, catalogue.faults o.crlf = catalogue.faults o := by
    intro o
    have hfault : o.crlf.fault? = o.fault? := funext o.fault?_crlf
    rw [faults, hfault]
    rfl
  rw [validate, Document.occurrences_crlf, List.flatMap_map, validate]
  simp only [hfaults]

variable (hreturn : '\r' ∉ doc.chars)

include hreturn

theorem hover_crlf (p : Position) : catalogue.hover doc.crlf p = catalogue.hover doc p := by
  rw [hover, Document.hoverTarget_crlf hreturn, Document.wordRange?_crlf hreturn]
  rfl

theorem completeValues_crlf (p : Position) (tag name : String) :
    catalogue.completeValues doc.crlf p tag name = catalogue.completeValues doc p tag name := by
  have hspan : doc.crlf.valueSpan p = doc.valueSpan p := by
    funext opened
    rw [Document.valueSpan, Document.textAfter_crlf hreturn]
    rfl
  have hblank : isBlank '\r' = isBlank '\n' := by decide
  simp only [completeValues, Document.valueQuote?_crlf hreturn, hspan,
    Document.textInRange_crlf hreturn, Completion.slotIndex_crlf, all_crlf hblank]

theorem completeAttributes_crlf (p : Position) (tag : String) (settings : Settings) :
    catalogue.completeAttributes doc.crlf p tag settings =
      catalogue.completeAttributes doc p tag settings := by
  simp only [completeAttributes, Document.textBefore_crlf hreturn]

theorem complete_crlf (p : Position) (settings : Settings) :
    catalogue.complete doc.crlf p settings = catalogue.complete doc p settings := by
  simp only [complete, Document.clamp_crlf hreturn, Document.context_crlf hreturn]
  cases doc.context (doc.clamp p) with
  | attributeValue tag name => exact catalogue.completeValues_crlf hreturn _ tag name
  | attributeName tag => exact catalogue.completeAttributes_crlf hreturn _ tag.text settings
  | tagStart typed =>
    simp only [CursorContext.crlf, Document.tagsAllowed_crlf hreturn]
  | unknown => rfl

end Catalogue

/-- **Answers do not depend on line endings.** Let a document have no carriage
return, and write one in front of each of its line feeds. At every position, on
the text or behind it, completion and documentation are the same, the findings
are the same, and what the position is on is the same, except that the offset of
an open tag grows by the number of line feeds before the tag. -/
theorem answers_crlf (catalogue : Catalogue) (settings : Settings) {doc : Document}
    (hreturn : '\r' ∉ doc.chars) (p : Position) :
    catalogue.complete doc.crlf p settings = catalogue.complete doc p settings ∧
      catalogue.hover doc.crlf p = catalogue.hover doc p ∧
      catalogue.validate doc.crlf = catalogue.validate doc ∧
      doc.crlf.context p = (doc.context p).crlf doc :=
  ⟨catalogue.complete_crlf hreturn p settings, catalogue.hover_crlf hreturn p,
    catalogue.validate_crlf, Document.context_crlf hreturn p⟩

/-- A tag whose attribute stands on the next line. -/
def foldedTag : Document :=
  ⟨"\n<f-row\n  kind>".toList, "html"⟩

/-- A catalogue with one element, which requires one attribute. -/
def rowCatalogue : Catalogue where
  elements := [("f-row", { attributes := [("kind", { isRequired := true })] })]

theorem answers_crlf_foldedTag :
    '\r' ∉ foldedTag.chars ∧
      (rowCatalogue.complete foldedTag.crlf ⟨2, 4⟩ {}).map (·.label) = ["kind"] ∧
      rowCatalogue.validate foldedTag.crlf = rowCatalogue.validate foldedTag ∧
      foldedTag.crlf.context ⟨2, 4⟩ = .attributeName ⟨"f-row", 2⟩ := by
  have hreturn : '\r' ∉ foldedTag.chars := by decide
  obtain ⟨hcomplete, -, hvalidate, hcontext⟩ := answers_crlf rowCatalogue {} hreturn ⟨2, 4⟩
  rw [hcomplete, hcontext]
  exact ⟨hreturn, by decide, hvalidate, by decide⟩

end MarkupAssist
