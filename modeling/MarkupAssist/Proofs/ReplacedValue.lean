import MarkupAssist.Completion.Complete
import MarkupAssist.Proofs.TypingContext

/-!
# The value that a completion replaces

The options of an attribute replace the text between two quotes. The first quote is found by the
automaton that reads the line up to the cursor, the second one by a search in the rest of the line;
if the search finds none, the text ends at the cursor.

* `Document.OpenValueAt`: a range is the value that is open at a position.
* `Document.openValueAt_valueSpan`: the span of the two searches is such a range.
* `Completion.mem_completeValues`: all the options of an attribute replace the span, or none does,
  if the value is composed of words and has some already.

`completion_replaces_value` puts them together. Attributes and elements replace no range.
-/

namespace MarkupAssist

open Text Cursor

namespace Document

variable {doc : Document}

/-! ### Slices of a line -/

/-- Between two characters of one line the text of a range is a slice of the line. -/
theorem textInRange_onLine {n : Nat} {line : List Char} (hline : doc.line? n = some line)
    (i j : Nat) : doc.textInRange (.onLine n i j) = (line.take j).drop i := by
  obtain ⟨raw, hraw, rfl⟩ := Option.map_eq_some_iff.mp hline
  obtain ⟨above, tail, rfl, hchars, habove, -, -⟩ := exists_line hraw
  have hsplits : doc.Splits above [] (raw ++ tail) :=
    splits_of_chars hchars habove List.not_mem_nil fun _ => by simp
  have hoffset : ∀ k, doc.offsetAt ⟨above.length, k⟩ =
      (unlines above).length + min k (dropReturn raw).length := by
    intro k
    rw [offsetAt, hline, hsplits.lineStart]
  -- behind the lines above, the text goes on with the line
  obtain ⟨ret, hret⟩ := isPrefix_dropReturn raw
  have htext : doc.chars = unlines above ++ (dropReturn raw ++ (ret ++ tail)) := by
    rw [hchars, ← List.append_assoc (dropReturn raw), hret]
  have hslice : doc.textInRange (.onLine above.length i j) =
      ((dropReturn raw ++ (ret ++ tail)).take (min j (dropReturn raw).length)).drop
        (min i (dropReturn raw).length) := by
    show (doc.chars.take (doc.offsetAt ⟨above.length, j⟩)).drop (doc.offsetAt ⟨above.length, i⟩) = _
    rw [hoffset, hoffset, htext, List.take_length_add_append, List.drop_length_add_append]
  have htake : (dropReturn raw).take (min j (dropReturn raw).length) = (dropReturn raw).take j := by
    rw [List.take_eq_take_iff]
    omega
  rw [hslice, List.take_append_of_le_length (Nat.min_le_right _ _), htake]
  by_cases hle : i ≤ (dropReturn raw).length
  · rw [Nat.min_eq_left hle]
  · -- behind the end of the line both slices are empty
    have hlength := List.length_take_le j (dropReturn raw)
    have hlength' := List.length_take_le' j (dropReturn raw)
    rw [List.drop_of_length_le (by omega), List.drop_of_length_le (by omega)]

/-! ### The open value -/

/-- A range is the value that is open at a position. It lies on the line of the position, around it.
The automaton finds its quote open, which stands in front of the range, behind an equals sign and
blanks. The range ends in front of the next such quote; if the line has no more, at the position. -/
structure OpenValueAt (doc : Document) (p : Position) (quote : Char) (r : Range) : Prop where
  start_line : r.start.line = p.line
  stop_line : r.stop.line = p.line
  start_le : r.start ≤ p
  le_stop : p ≤ r.stop
  opened : ∃ i, doc.valueQuote? p = some ⟨i, quote⟩ ∧ r.start.character = i + 1
  isQuote : Text.isQuote quote = true
  assigned : ∃ front blanks, doc.textBefore r.start = front ++ '=' :: (blanks ++ [quote]) ∧
    ∀ c ∈ blanks, isBlank c = true
  inside : quote ∉ doc.textInRange r
  closed : (doc.textAfter r.stop).head? = some quote ∨ r.stop = p ∧ quote ∉ doc.textAfter p

/-- The span goes on behind the cursor up to the closing quote, or not at all. -/
theorem exists_valueSpan (doc : Document) (p : Position) (opened : OpenQuote) :
    ∃ inside rest, doc.textAfter p = inside ++ rest ∧ opened.quote ∉ inside ∧
      doc.valueSpan p opened =
        .onLine p.line (opened.index + 1) (p.character + inside.length) ∧
      (rest.head? = some opened.quote ∨ inside = [] ∧ opened.quote ∉ rest) := by
  by_cases hclosed : opened.quote ∈ doc.textAfter p
  · obtain ⟨inside, rest, hafter, hinside⟩ := List.eq_append_cons_of_mem hclosed
    have hcut : splitFirst? (· == opened.quote) (doc.textAfter p) =
        some (inside, opened.quote :: rest) := by
      rw [hafter]
      refine splitFirst?_append_cons (fun c hc => ?_) (by simp)
      exact beq_eq_false_iff_ne.mpr fun heq => hinside (heq ▸ hc)
    exact ⟨inside, _, hafter, hinside, by simp only [valueSpan, hcut], .inl rfl⟩
  · have hcut : splitFirst? (· == opened.quote) (doc.textAfter p) = none :=
      splitFirst?_eq_none fun c hc => beq_eq_false_iff_ne.mpr fun heq => hclosed (heq ▸ hc)
    refine ⟨[], _, rfl, List.not_mem_nil, ?_, .inr ⟨rfl, hclosed⟩⟩
    simp only [valueSpan, hcut, List.length_nil, Nat.add_zero]

/-- **The span between the two quotes is the open value.** -/
theorem openValueAt_valueSpan {p : Position} {line : List Char}
    (hline : doc.line? p.line = some line) (hp : p.character ≤ line.length) {opened : OpenQuote}
    (hopened : doc.valueQuote? p = some opened) :
    doc.OpenValueAt p opened.quote (doc.valueSpan p opened) := by
  obtain ⟨front, typed, hbefore, hindex, hquote, htyped⟩ := exists_of_openQuote? hopened
  obtain ⟨lead, blanks, hassigned, hblanks⟩ := exists_assigned hopened
  obtain ⟨inside, rest, hafter, hinside, hspan, hclosed⟩ := doc.exists_valueSpan p opened
  rw [hbefore, hindex, List.take_left] at hassigned
  have htext : doc.lineText p.line = line := by rw [lineText, hline, Option.getD_some]
  -- the line, cut at the ends of the span
  have hparts : line = (front ++ [opened.quote]) ++ (typed ++ inside) ++ rest := by
    rw [← List.take_append_drop p.character line, ← htext]
    show doc.textBefore p ++ doc.textAfter p = _
    rw [hbefore, hafter]
    simp
  have hcharacter : p.character = (front ++ [opened.quote]).length + typed.length := by
    have hlength := congrArg List.length hbefore
    rw [textBefore, htext, List.length_take, Nat.min_eq_left hp] at hlength
    rw [hlength, List.append_cons, List.length_append]
  have hstart : opened.index + 1 = (front ++ [opened.quote]).length := by
    rw [hindex, List.length_append, List.length_singleton]
  have hstop : p.character + inside.length =
      ((front ++ [opened.quote]) ++ (typed ++ inside)).length := by
    rw [hcharacter]
    simp only [List.length_append, Nat.add_assoc]
  rw [hspan]
  refine ⟨rfl, rfl, ?_, ?_, ⟨_, hopened, rfl⟩, hquote, ⟨lead, blanks, ?_, hblanks⟩, ?_, ?_⟩
  · rw [Position.le_iff]
    exact .inr ⟨rfl, by rw [hcharacter, ← hstart]; exact Nat.le_add_right _ _⟩
  · rw [Position.le_iff]
    exact .inr ⟨rfl, Nat.le_add_right _ _⟩
  · show (doc.lineText p.line).take (opened.index + 1) = _
    rw [htext, hparts, hstart, List.append_assoc (front ++ _), List.take_left, hassigned]
    simp
  · rw [textInRange_onLine hline, hstop, hstart, hparts, List.take_left, List.drop_left,
      List.mem_append, not_or]
    exact ⟨htyped, hinside⟩
  · have hrest : doc.textAfter ⟨p.line, p.character + inside.length⟩ = rest := by
      rw [textAfter, htext, hstop, hparts, List.drop_left]
    rcases hclosed with hhead | ⟨rfl, hnone⟩
    · left
      exact hrest.symm ▸ hhead
    · exact .inr ⟨rfl, by rwa [hafter]⟩

/-- The context of a value comes with the quote that opens it. -/
theorem exists_valueQuote?_of_context {p : Position} {tag name : String}
    (h : doc.context p = .attributeValue tag name) :
    ∃ opened, doc.valueQuote? (doc.clamp p) = some opened := by
  cases hquote : doc.valueQuote? (doc.clamp p) with
  | some opened => exact ⟨opened, rfl⟩
  | none =>
    -- without a quote the other contexts are left
    simp only [context, valueContext?, hquote] at h
    split at h
    · cases h
    · split at h <;> cases h

end Document

/-! ### What the items replace -/

namespace Completion

theorem mem_valueItems {attr : Attribute} {range : Option Range} {item : CompletionItem}
    (h : item ∈ valueItems attr range) : item.kind = .value ∧ item.replaceRange = range := by
  obtain ⟨⟨value, description⟩, -, rfl⟩ := List.mem_map.mp h
  exact ⟨rfl, rfl⟩

/-- What the options of an attribute replace, given the span of the value: the span, but nothing if
the value is composed of words and not blank. -/
def replaced? (doc : Document) (attr : Attribute) (span : Range) : Option Range :=
  if attr.slots?.isNone || (doc.textInRange span).all isBlank then some span else none

/-- **All the options of an attribute replace the same text.** -/
theorem mem_completeValues {catalogue : Catalogue} {doc : Document} {p : Position}
    {tag name : String} {attr : Attribute} {opened : OpenQuote}
    (hattr : catalogue.attribute? tag name = some attr) (hopened : doc.valueQuote? p = some opened)
    {item : CompletionItem} (h : item ∈ catalogue.completeValues doc p tag name) :
    item.kind = .value ∧ item.replaceRange = replaced? doc attr (doc.valueSpan p opened) := by
  simp only [Catalogue.completeValues, hattr, hopened] at h
  rw [replaced?]
  cases hslots : attr.slots? with
  | none =>
    simp only [hslots] at h
    exact mem_valueItems h
  | some slots =>
    simp only [hslots] at h
    split at h
    · cases h
    · exact mem_valueItems h

theorem replaceRange_completeAttributes {catalogue : Catalogue} {doc : Document} {p : Position}
    {tag : String} {settings : Settings} {item : CompletionItem}
    (h : item ∈ catalogue.completeAttributes doc p tag settings) : item.replaceRange = none := by
  rw [Catalogue.completeAttributes] at h
  split at h
  · cases h
  · obtain ⟨⟨name, attr⟩, -, rfl⟩ := List.mem_map.mp h
    rfl

theorem replaceRange_completeElements {catalogue : Catalogue} {settings : Settings}
    {item : CompletionItem} (h : item ∈ catalogue.completeElements settings) :
    item.replaceRange = none := by
  obtain ⟨⟨⟨tag, element⟩, n⟩, -, rfl⟩ := List.mem_map.mp h
  rfl

section Complete

variable {catalogue : Catalogue} {doc : Document} {cursor : Position} {settings : Settings}

theorem complete_of_value {tag name : String} (h : doc.context cursor = .attributeValue tag name) :
    catalogue.complete doc cursor settings =
      catalogue.completeValues doc (doc.clamp cursor) tag name := by
  simp only [Catalogue.complete, doc.context_clamp, h]

/-- Only the options of an attribute replace a range. -/
theorem exists_of_replaceRange {item : CompletionItem}
    (hitem : item ∈ catalogue.complete doc cursor settings) {r : Range}
    (hr : item.replaceRange = some r) :
    ∃ tag name attr, doc.context cursor = .attributeValue tag name ∧
      catalogue.attribute? tag name = some attr := by
  simp only [Catalogue.complete, doc.context_clamp] at hitem
  split at hitem
  · next tag name hvalue =>
    cases hattr : catalogue.attribute? tag name with
    | some attr => exact ⟨tag, name, attr, hvalue, hattr⟩
    | none =>
      simp only [Catalogue.completeValues, hattr] at hitem
      cases hitem
  · rw [replaceRange_completeAttributes hitem] at hr
    cases hr
  · split at hitem
    · rw [replaceRange_completeElements hitem] at hr
      cases hr
    · cases hitem
  · cases hitem

/-- The options of an attribute replace the value that is open at the cursor. -/
theorem exists_openValueAt {line : List Char} (hline : doc.line? cursor.line = some line)
    {tag name : String} {attr : Attribute} (settings : Settings)
    (hcontext : doc.context cursor = .attributeValue tag name)
    (hattr : catalogue.attribute? tag name = some attr) :
    ∃ quote span, doc.OpenValueAt (doc.clamp cursor) quote span ∧
      ∀ item ∈ catalogue.complete doc cursor settings,
        item.kind = .value ∧ item.replaceRange = replaced? doc attr span := by
  obtain ⟨opened, hopened⟩ := Document.exists_valueQuote?_of_context hcontext
  have hclamp : doc.clamp cursor = ⟨cursor.line, min cursor.character line.length⟩ := by
    rw [Document.clamp, hline]
  have hline' : doc.line? (doc.clamp cursor).line = some line := by rw [hclamp, hline]
  have hwithin : (doc.clamp cursor).character ≤ line.length := by
    rw [hclamp]
    exact Nat.min_le_right _ _
  refine ⟨_, _, Document.openValueAt_valueSpan hline' hwithin hopened, fun item hitem => ?_⟩
  rw [complete_of_value hcontext] at hitem
  exact mem_completeValues hattr hopened hitem

end Complete

end Completion

/-- **Completed values replace exactly the value.** On a line of the document, an item that replaces
a range is an option of an attribute, all items replace the same range, and the range is the value
that is open at the clamped cursor. The options of an attribute replace that value always, unless it
is composed of words; then they replace it exactly if it is blank. -/
theorem completion_replaces_value (catalogue : Catalogue) (doc : Document) (settings : Settings)
    {cursor : Position} (hline : cursor.line < doc.lineCount) :
    (∀ item ∈ catalogue.complete doc cursor settings, ∀ r, item.replaceRange = some r →
      (∀ other ∈ catalogue.complete doc cursor settings,
        other.kind = .value ∧ other.replaceRange = some r) ∧
      r.start.line = cursor.line ∧ ∃ quote, doc.OpenValueAt (doc.clamp cursor) quote r) ∧
    (∀ tag name attr, doc.context cursor = .attributeValue tag name →
      catalogue.attribute? tag name = some attr →
      ∃ quote span, doc.OpenValueAt (doc.clamp cursor) quote span ∧
        ∀ item ∈ catalogue.complete doc cursor settings, item.replaceRange =
          if attr.slots?.isNone || (doc.textInRange span).all isBlank then some span
          else none) := by
  obtain ⟨line, hexists⟩ := Document.exists_line?_of_lt hline
  constructor
  · intro item hitem r hr
    obtain ⟨tag, name, attr, hcontext, hattr⟩ := Completion.exists_of_replaceRange hitem hr
    obtain ⟨quote, span, hspan, hall⟩ :=
      Completion.exists_openValueAt hexists settings hcontext hattr
    -- the range that this item has is the one that all of them have
    have hshared : Completion.replaced? doc attr span = some r := by
      rw [← (hall item hitem).2, hr]
    obtain rfl : span = r := by
      rw [Completion.replaced?] at hshared
      split at hshared
      · exact Option.some.inj hshared
      · cases hshared
    refine ⟨fun other hother => ?_, ?_, quote, hspan⟩
    · rw [← hshared]
      exact hall other hother
    · rw [hspan.start_line, Document.clamp, hexists]
  · intro tag name attr hcontext hattr
    obtain ⟨quote, span, hspan, hall⟩ :=
      Completion.exists_openValueAt hexists settings hcontext hattr
    exact ⟨quote, span, hspan, fun item hitem => (hall item hitem).2⟩

/-- A catalogue with one element, which has an attribute with options and one whose value is
composed of two words. -/
def boxCatalogue : Catalogue where
  elements := [("f-box", { attributes := [
    ("size", { values := some (.options [("large", none), ("small", none)]) }),
    ("border", { values := some (.slots [
      ("width", { values := some (.options [("thin", none)]) }),
      ("style", { values := some (.options [("solid", none)]) })]) })] })]

/-- A value with the other quote in it in front of a value with a blank and a letter of two bytes,
then a blank value and one with its first word. -/
def boxPage : Document :=
  ⟨"\n<f-box é=\"'\" size='la é' border=\"  \" border='thin '>".toList, "vue"⟩

/-- The options of the first two values replace the value around the cursor. The third value is
composed of words, and has one already. -/
theorem completion_replaces_value_boxPage :
    (boxCatalogue.complete boxPage ⟨1, 21⟩ {}).map (fun item => (item.label, item.replaceRange)) =
        [("large", some (.onLine 1 19 23)), ("small", some (.onLine 1 19 23))] ∧
      (∃ quote, boxPage.OpenValueAt ⟨1, 21⟩ quote (.onLine 1 19 23)) ∧
      (boxCatalogue.complete boxPage ⟨1, 34⟩ {}).map (fun item => (item.label, item.replaceRange)) =
        [("thin", some (.onLine 1 33 35))] ∧
      (boxCatalogue.complete boxPage ⟨1, 50⟩ {}).map (fun item => (item.label, item.replaceRange)) =
        [("solid", none)] := by
  have hitems : (boxCatalogue.complete boxPage ⟨1, 21⟩ {}).map
      (fun item => (item.label, item.replaceRange)) =
        [("large", some (.onLine 1 19 23)), ("small", some (.onLine 1 19 23))] := by
    decide +kernel
  refine ⟨hitems, ?_, by decide +kernel, by decide +kernel⟩
  obtain ⟨item, hitem, heq⟩ := List.mem_map.mp (hitems ▸ List.mem_cons_self)
  have hreplaces := completion_replaces_value boxCatalogue boxPage {}
    (show (⟨1, 21⟩ : Position).line < boxPage.lineCount by decide)
  exact (hreplaces.1 item hitem _ (Prod.mk.inj heq).2).2.2

end MarkupAssist
