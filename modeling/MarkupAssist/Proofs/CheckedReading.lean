import MarkupAssist.Diagnostic
import MarkupAssist.Documentation
import MarkupAssist.Proofs.CheckedCursor
import MarkupAssist.Proofs.SlotChoice
import MarkupAssist.Proofs.TagGrammar

/-!
# Reading without a fault

The answers to an editor, read from a text that is kept as bytes: documentation, completion, the
occurrences of elements and the findings. For a tag and for an attribute in its body the bytes of a
match are added to the byte at which the searched text starts, and each sum has to be a boundary of
the document (`Checked.rangeBetween_eq`).

`reads_without_fault` collects what `CheckedText`, `CheckedCursor` and this module show: on every
document and at every position, also past the end of its line or of the document, all of it is read
without a fault, and gives what the library gives.
-/

namespace MarkupAssist

open Text Markup Cursor Completion

namespace Checked

/-! ### Documentation and completion -/

/-- The documentation for a position. -/
def hover (catalogue : Catalogue) (doc : Document) (position : Position) :
    Checked (Option HoverInfo) := do
  let target ← hoverTarget doc position
  match target.tag with
  | none => return none
  | some tag =>
    match catalogue.element? tag with
    | none => return none
    | some element =>
      let found : Option (String × Attribute) := do
        let name ← target.name
        return (name, ← element.attributes.get? name)
      let content :=
        match found with
        | some (name, attr) => Documentation.ofAttribute name attr
        | none => Documentation.ofElement tag element
      return some ⟨content, ← wordRange doc position⟩

/-- The text of the value that the cursor is in, given its opening quote. -/
def valueSpan (doc : Document) (position : Position) (opened : OpenQuote) : Checked Range := do
  let stop :=
    match splitFirst? (· == opened.quote) (← textAfter doc position) with
    | some (before, _) => position.character + before.length
    | none => position.character
  return .onLine position.line (opened.index + 1) stop

/-- The values of an attribute of a tag that are offered at a position. -/
def completeValues (catalogue : Catalogue) (doc : Document) (position : Position)
    (tag name : String) : Checked (List CompletionItem) :=
  match catalogue.attribute? tag name with
  | none => return []
  | some attr => do
    match ← valueQuote doc position with
    | none => return []
    | some opened =>
      let span ← valueSpan doc position opened
      match attr.slots? with
      | none => return valueItems attr (some span)
      | some slots =>
        let typed ← textInRange doc (.onLine position.line (opened.index + 1) position.character)
        let slot ← minus (pieces (· == ' ') (typed.dropWhile isBlank)).length 1
        match slots[slot]? with
        | none => return []
        | some (_, slot) =>
          let existing ← textInRange doc span
          return valueItems slot (if existing.all isBlank then some span else none)

/-- The attributes of a tag that are offered at a position. -/
def completeAttributes (catalogue : Catalogue) (doc : Document) (position : Position)
    (tag : String) (settings : Settings) : Checked (List CompletionItem) :=
  match catalogue.element? tag with
  | none => return []
  | some element => do
    let token := lastToken (dropQuotedTail (← textBefore doc position))
    let binding := Binding.ofToken token
    return ((element.attributes.filter fun e => matchesTyped (typedName token) e.1).filter fun e =>
      binding.accepts e.2).map (attributeItem settings)

variable (doc : Document)

theorem hover_eq (catalogue : Catalogue) (position : Position) :
    hover catalogue doc position = .ok (catalogue.hover doc position) := by
  rw [hover, hoverTarget_eq, ok_bind]
  simp only [wordRange_eq, ok_bind, Catalogue.hover]
  cases (doc.hoverTarget position).tag with
  | none => rfl
  | some tag =>
    simp only [Option.bind_eq_bind, Option.bind_some]
    cases catalogue.element? tag with
    | none => rfl
    | some element => rfl

theorem valueSpan_eq (position : Position) (opened : OpenQuote) :
    valueSpan doc position opened = .ok (doc.valueSpan position opened) := by
  rw [valueSpan, textAfter_eq, ok_bind]
  rfl

/-- There is one piece more than there are spaces, so at least one. -/
theorem minus_pieces (typed : List Char) :
    minus (pieces (· == ' ') (typed.dropWhile isBlank)).length 1 = .ok (slotIndex typed) := by
  rw [length_pieces, minus_eq (Nat.le_add_left _ _), Nat.add_sub_cancel]
  rfl

theorem completeValues_eq (catalogue : Catalogue) (position : Position) (tag name : String) :
    completeValues catalogue doc position tag name =
      .ok (catalogue.completeValues doc position tag name) := by
  rw [completeValues, Catalogue.completeValues]
  cases catalogue.attribute? tag name with
  | none => rfl
  | some attr =>
    simp only [valueQuote_eq, ok_bind]
    cases doc.valueQuote? position with
    | none => rfl
    | some opened =>
      simp only [valueSpan_eq, ok_bind]
      cases attr.slots? with
      | none => rfl
      | some slots =>
        simp only [textInRange_eq, minus_pieces, ok_bind]
        cases slots[slotIndex (doc.textInRange
            (.onLine position.line (opened.index + 1) position.character))]? with
        | none => rfl
        | some slot => rfl

theorem completeAttributes_eq (catalogue : Catalogue) (position : Position) (tag : String)
    (settings : Settings) :
    completeAttributes catalogue doc position tag settings =
      .ok (catalogue.completeAttributes doc position tag settings) := by
  rw [completeAttributes, Catalogue.completeAttributes]
  cases catalogue.element? tag with
  | none => rfl
  | some element =>
    simp only [textBefore_eq, ok_bind]
    rfl

/-! ### Occurrences and findings -/

/-- The range between the bytes before two numbers of characters of a text that starts at a byte
of the document. -/
def rangeBetween (doc : Document) (base : Nat) (text : List Char) (start stop : Nat) :
    Checked Range := do
  return ⟨← positionAtByte doc (base + size utf8Width (text.take start)),
    ← positionAtByte doc (base + size utf8Width (text.take stop))⟩

/-- An attribute found in a body that starts at a byte of the document. -/
def attributeOccurrence (doc : Document) (base : Nat) (body : List Char) (m : AttributeMatch) :
    Checked (Option AttributeOccurrence) :=
  let name := dropValueBinding m.name
  if name.isEmpty then return none
  else do
    let range ← rangeBetween doc base body m.offset (m.offset + m.text.length)
    return some ⟨String.ofList name, String.ofList m.text, m.value.map String.ofList, range⟩

/-- A tag with its attributes. -/
def occurrence (doc : Document) (m : TagMatch) : Checked Occurrence := do
  let stop := m.offset + m.text.length
  -- a match is given by characters; its bytes are those of the text in front of them
  let base := size utf8Width (doc.chars.take (m.offset + 1 + m.name.length))
  let body ← slice doc.chars base (size utf8Width (doc.chars.take stop))
  let attributes ← (attributeMatches 0 body).mapM (attributeOccurrence doc base body)
  return {
    name := String.ofList m.name
    rawText := String.ofList m.text
    range := ← rangeBetween doc 0 doc.chars m.offset stop
    attributes := keepLast (attributes.filterMap id) }

/-- The occurrences of known elements, in order. -/
def occurrences (doc : Document) (catalogue : Catalogue) : Checked (List Occurrence) :=
  ((tagMatches 0 doc.chars).filter fun m => catalogue.isKnown (String.ofList m.name)).mapM
    (occurrence doc)

/-- The findings in a document. -/
def validate (catalogue : Catalogue) (doc : Document) : Checked (List Diagnostic) := do
  return (← occurrences doc catalogue).flatMap catalogue.faults

/-- A loop has no fault if none of its steps has one. -/
theorem mapM_eq {α β : Type} {f : α → Checked β} {g : α → β} {xs : List α}
    (h : ∀ x ∈ xs, f x = .ok (g x)) : xs.mapM f = .ok (xs.map g) := by
  induction xs with
  | nil => rfl
  | cons x xs ih =>
    rw [List.mapM_cons, h x List.mem_cons_self, ok_bind,
      ih fun y hy => h y (List.mem_cons_of_mem _ hy), ok_bind]
    rfl

/-- The bounds of a part of the text that starts at a byte of the document are boundaries of the
document. -/
theorem rangeBetween_eq {front text back : List Char} (hchars : doc.chars = front ++ (text ++ back))
    {start stop : Nat} (hstart : start ≤ text.length) (hstop : stop ≤ text.length) :
    rangeBetween doc (size utf8Width front) text start stop =
      .ok (doc.rangeBetween (front.length + start) (front.length + stop)) := by
  have hposition : ∀ n ≤ text.length,
      positionAtByte doc (size utf8Width front + size utf8Width (text.take n)) =
        .ok (doc.positionAt (front.length + n)) := by
    intro n hn
    have hcut : doc.chars = (front ++ text.take n) ++ (text.drop n ++ back) := by
      rw [hchars, List.append_assoc, ← List.append_assoc (text.take n), List.take_append_drop]
    rw [← size_append, positionAtByte_eq hcut, Document.positionAtByte_size hcut,
      Document.positionAt, hchars, List.take_length_add_append,
      List.take_append_of_le_length hn]
  rw [rangeBetween, hposition start hstart, ok_bind, hposition stop hstop, ok_bind]
  rfl

theorem attributeOccurrence_eq {front body back : List Char}
    (hchars : doc.chars = front ++ (body ++ back)) {m : AttributeMatch}
    (hm : m ∈ attributeMatches 0 body) :
    attributeOccurrence doc (size utf8Width front) body m =
      .ok (doc.attributeOccurrence? front.length m) := by
  obtain ⟨before, rest, hbody, hoffset⟩ := mem_attributeMatches hm
  have hstop : m.offset + m.text.length ≤ body.length := by
    rw [hbody, hoffset]
    simp only [List.length_append]
    omega
  rw [attributeOccurrence, Document.attributeOccurrence?]
  split
  · rfl
  · rw [rangeBetween_eq doc hchars (Nat.le_of_add_right_le hstop) hstop, ok_bind, ← Nat.add_assoc]
    rfl

theorem occurrence_eq {m : TagMatch} (hm : m ∈ tagMatches 0 doc.chars) :
    occurrence doc m = .ok (doc.occurrence m) := by
  obtain ⟨before, rest, hchars, hoffset, -⟩ := mem_tagMatches hm
  rw [Nat.zero_add] at hoffset
  have hcut : doc.chars = (before ++ '<' :: m.name) ++ (m.body ++ rest) := by
    simp [hchars, TagMatch.text]
  have hbase : m.offset + 1 + m.name.length = (before ++ '<' :: m.name).length := by
    rw [hoffset, List.length_append, List.length_cons]
    omega
  have hstop : m.offset + m.text.length = ((before ++ '<' :: m.name) ++ m.body).length := by
    rw [hoffset, ← List.length_append]
    simp [TagMatch.text]
  have hfront : doc.chars.take (m.offset + 1 + m.name.length) = before ++ '<' :: m.name := by
    rw [hbase, hcut, List.take_left]
  have htag : doc.chars.take (m.offset + m.text.length) = (before ++ '<' :: m.name) ++ m.body := by
    rw [hstop, hcut, ← List.append_assoc, List.take_left]
  have hle : m.offset + m.text.length ≤ doc.chars.length := by
    rw [hchars, hoffset]
    simp only [List.length_append]
    omega
  have hattributes := mapM_eq fun a ha => attributeOccurrence_eq (m := a) doc hcut ha
  rw [← hbase] at hattributes
  have hrange := rangeBetween_eq doc (show doc.chars = [] ++ (doc.chars ++ []) by simp)
    (Nat.le_of_add_right_le hle) hle
  rw [size_nil, List.length_nil, Nat.zero_add, Nat.zero_add] at hrange
  simp only [occurrence, hfront, htag, slice_eq hcut rfl (size_append _ _ _), hattributes, hrange,
    ok_bind, List.filterMap_map]
  rfl

theorem occurrences_eq (catalogue : Catalogue) :
    occurrences doc catalogue = .ok (doc.occurrences catalogue) :=
  mapM_eq fun _ hm => occurrence_eq doc (List.mem_of_mem_filter hm)

theorem validate_eq (catalogue : Catalogue) :
    validate catalogue doc = .ok (catalogue.validate doc) := by
  rw [validate, occurrences_eq, ok_bind]
  rfl

end Checked

/-- **Nothing is read out of bounds.** What the cursor is on, the word under it, the documentation
and the completions at it, and the occurrences and findings of the document are read without a
fault: all slices have bounds in order, within their text and between its characters, all bytes that
become positions are boundaries of the document, and no difference is negative. What is read is what
the library gives. -/
theorem reads_without_fault (catalogue : Catalogue) (doc : Document) (cursor : Position) :
    Checked.context doc cursor = .ok (doc.context cursor) ∧
    Checked.hoverTarget doc cursor = .ok (doc.hoverTarget cursor) ∧
    Checked.wordRange doc cursor = .ok (doc.wordRange? cursor) ∧
    Checked.hover catalogue doc cursor = .ok (catalogue.hover doc cursor) ∧
    (∀ tag name : String, Checked.completeValues catalogue doc cursor tag name =
      .ok (catalogue.completeValues doc cursor tag name)) ∧
    (∀ (tag : String) (settings : Settings),
      Checked.completeAttributes catalogue doc cursor tag settings =
        .ok (catalogue.completeAttributes doc cursor tag settings)) ∧
    Checked.occurrences doc catalogue = .ok (doc.occurrences catalogue) ∧
    Checked.validate catalogue doc = .ok (catalogue.validate doc) :=
  ⟨Checked.context_eq doc cursor, Checked.hoverTarget_eq doc cursor,
    Checked.wordRange_eq doc cursor, Checked.hover_eq doc catalogue cursor,
    Checked.completeValues_eq doc catalogue cursor,
    Checked.completeAttributes_eq doc catalogue cursor, Checked.occurrences_eq doc catalogue,
    Checked.validate_eq doc catalogue⟩

end MarkupAssist
