import MarkupAssist.Proofs.CheckedText
import MarkupAssist.Proofs.HoveredWord

/-!
# The cursor by bytes

What the library reads around a cursor is read here from a text that is kept as bytes. A search then
gives a byte, and what is cut off at that byte is a slice: of the text that was searched, or of
another one. The readers follow the slices one by one.

* `Checked.find?`, `Checked.findLast?`, `Checked.findClosing?`: searches that give a byte.
* The tag opened before the cursor: the byte at which a tag starts in a line becomes a number of
  characters, and that a place of the document.
* The tag around the cursor: a fragment is put together from two slices, and is sliced again at what
  is found in it. Its first character is a `<`, so that no cut is in front of byte 1.
* The attribute at the cursor: the equals sign is searched in the whole line, and counts only if it
  stands behind the last gap (`Checked.filter_findLast?`).
* The word under the cursor: a count on the line of a clamped cursor is taken from its character.

As in `CheckedText`, each reader has a lemma `_eq`: without a fault it gives what the library gives.
-/

namespace MarkupAssist

open Text Cursor

namespace Checked

/-! ### Searching by bytes -/

/-- The byte at which the first character of a kind starts. -/
def find? (p : Char → Bool) (cs : List Char) : Option Nat :=
  (splitFirst? p cs).map fun cut => size utf8Width cut.1

/-- The byte at which the last character of a kind starts. -/
def findLast? (p : Char → Bool) (cs : List Char) : Option Nat :=
  (splitLast? p cs).map fun cut => size utf8Width cut.1

/-- The byte at which the first `</` starts. -/
def findClosing? : List Char → Option Nat
  | [] => none
  | '<' :: '/' :: _ => some 0
  | c :: rest => (findClosing? rest).map (utf8Width c + ·)

/-- A text has no character of a kind, or it is cut in front of the first one. -/
theorem splitFirst?_eq (p : Char → Bool) (cs : List Char) :
    splitFirst? p cs =
      if cs.any p then some (cs.takeWhile fun c => !p c, cs.dropWhile fun c => !p c) else none := by
  induction cs with
  | nil => rfl
  | cons c cs ih =>
    rw [splitFirst?]
    by_cases hc : p c = true
    · simp [hc]
    · rw [Bool.not_eq_true] at hc
      rw [ih]
      by_cases hcs : cs.any p = true <;> simp [hc, hcs]

/-- A text has no character of a kind, or it is cut in front of the last one. -/
theorem splitLast?_cases (p : Char → Bool) (cs : List Char) :
    ((∀ c ∈ cs, p c = false) ∧ splitLast? p cs = none) ∨
      ∃ front c back, cs = front ++ c :: back ∧ p c = true ∧ (∀ d ∈ back, p d = false) ∧
        splitLast? p cs = some (front, c :: back) := by
  by_cases h : ∃ c ∈ cs, p c = true
  · obtain ⟨front, c, back, rfl, hc, hback⟩ := exists_last h
    exact .inr ⟨front, c, back, rfl, hc, hback, splitLast?_append_cons hc hback⟩
  · have hnone : ∀ c ∈ cs, p c = false := by simpa using h
    exact .inl ⟨hnone, splitLast?_eq_none hnone⟩

variable (doc : Document)

/-! ### The tag opened before the cursor -/

/-- The token of the last of the tags opened in the text of a line. -/
def tagToken (doc : Document) (line : Nat) (text : List Char) (tags : List (Nat × List Char)) :
    Checked (Option TagToken) :=
  match tags.getLast? with
  | some tag => do
    let before ← slice text 0 (size utf8Width (text.take tag.1))
    return some ⟨String.ofList tag.2, ← offsetAt doc ⟨line, before.length⟩⟩
  | none => return none

/-- The walk through lines given by their numbers. -/
def openTagAbove (doc : Document) : List Nat → Checked (Option TagToken)
  | [] => return none
  | line :: above => do
    let text ← lineText doc line
    if endsAfterTag text then return none
    else
      match ← tagToken doc line text (openTags true text) with
      | some token => return some token
      | none => openTagAbove doc above

/-- The nearest tag opened before the cursor and not closed. -/
def openTag (doc : Document) (cursor : Position) : Checked (Option TagToken) := do
  let cursor ← clamp doc cursor
  let before ← textBefore doc cursor
  if stopsAtCursor before then return none
  else
    match ← tagToken doc cursor.line before (openTags false before) with
    | some token => return some token
    | none =>
      -- the first line is at least zero, so this difference needs no check
      let first := cursor.line - (backwardLines - 1)
      openTagAbove doc (List.range' first (cursor.line - first)).reverse

theorem tagToken_eq (n : Nat) (text : List Char) (atEnd : Bool) :
    tagToken doc n text (openTags atEnd text) = .ok (doc.tagToken? n (openTags atEnd text)) := by
  rw [tagToken, Document.tagToken?]
  cases hlast : (openTags atEnd text).getLast? with
  | none => rfl
  | some tag =>
    obtain ⟨i, name⟩ := tag
    obtain ⟨front, rest, htext, rfl, -, -⟩ :=
      exists_of_mem_openTags (List.mem_of_getLast? hlast)
    -- the tag starts behind as many characters as the library counts
    have hfront : text.take front.length = front := by rw [htext, List.take_left]
    simp only [hfront, slice_front htext, offsetAt_eq, ok_bind]
    rfl

/-- The walk through `count` lines, the last one first. -/
theorem openTagAbove_eq (first count : Nat) :
    openTagAbove doc (List.range' first count).reverse =
      .ok (doc.openTagAbove? (first + count - 1)
        ((List.range' first count).map doc.lineText).reverse) := by
  induction count with
  | zero => rfl
  | succ n ih =>
    -- the last line is the first one that is looked at
    rw [List.range'_concat, Nat.one_mul, List.reverse_append, List.map_append, List.reverse_append,
      List.reverse_singleton, List.singleton_append, List.map_singleton, List.reverse_singleton,
      List.singleton_append, openTagAbove, lineText_eq, ok_bind, Document.openTagAbove?]
    split
    · rfl
    · have hlast : first + (n + 1) - 1 = first + n := rfl
      rw [hlast, tagToken_eq, ok_bind]
      cases doc.tagToken? (first + n) (openTags true (doc.lineText (first + n))) with
      | some token => rfl
      | none => exact ih

/-- The lines above a line by their numbers. -/
theorem linesAbove_eq {n : Nat} (hn : n ≤ doc.lineCount) :
    doc.linesAbove n =
      ((List.range' (n - (backwardLines - 1)) (n - (n - (backwardLines - 1)))).map
        doc.lineText).reverse := by
  rw [Document.linesAbove]
  generalize n - (backwardLines - 1) = first
  refine congrArg List.reverse (List.ext_getElem? fun i => ?_)
  rw [List.getElem?_map, List.getElem?_drop, List.getElem?_map]
  by_cases hi : first + i < n
  · rw [List.getElem?_take_of_lt hi, List.getElem?_range' (by omega), Nat.one_mul, Option.map_some,
      Document.lineText, Document.line?, List.getElem?_eq_getElem (Nat.lt_of_lt_of_le hi hn)]
    rfl
  · rw [List.getElem?_eq_none (by rw [List.length_take]; omega),
      List.getElem?_eq_none (by rw [List.length_range']; omega)]
    rfl

theorem openTag_eq (cursor : Position) : openTag doc cursor = .ok (doc.openTag? cursor) := by
  have hline : (doc.clamp cursor).line ≤ doc.lineCount := by
    obtain ⟨line, hline⟩ := doc.exists_line?_clamp cursor
    refine Nat.le_of_lt (Nat.not_le.mp fun hle => ?_)
    rw [Document.line?_eq_none_iff.mpr hle] at hline
    cases hline
  simp only [openTag, Document.openTag?, clamp_eq, textBefore_eq, ok_bind]
  split
  · rfl
  · rw [tagToken_eq, ok_bind]
    cases doc.tagToken? (doc.clamp cursor).line
        (openTags false (doc.textBefore (doc.clamp cursor))) with
    | some token => rfl
    | none =>
      rw [linesAbove_eq doc hline]
      exact (openTagAbove_eq doc _ _).trans (by rw [Nat.add_sub_cancel' (Nat.sub_le _ _)])

/-! ### The tag around the cursor -/

/-- The text up to the first `>`, that character included; empty if there is none. -/
def throughBracket (cs : List Char) : Checked (List Char) :=
  match find? (· == '>') cs with
  | some stop => slice cs 0 (stop + 1)
  | none => return []

/-- The part of a fragment that holds the tag name. -/
def nameRegion (fragment : List Char) : Checked (List Char) :=
  match find? isSeparator fragment with
  | some stop => slice fragment 1 stop
  | none => do
    let start := (findClosing? fragment).elim 1 (· + 2)
    let rest ← slice fragment start (size utf8Width fragment)
    let stop := (find? (· == '>') rest).elim (size utf8Width fragment) (start + ·)
    slice fragment start stop

/-- The name of the tag whose brackets surround the cursor. -/
def enclosingTag (doc : Document) (cursor : Position) : Checked (Option String) := do
  let cursor ← clamp doc cursor
  let before ← textUntil doc cursor
  let after ← textFrom doc cursor
  match findLast? (· == '<') before with
  | some start =>
    let head ← slice before start (size utf8Width before)
    let tail ← throughBracket after
    let name := regionName (← nameRegion (head ++ tail))
    return if name.isEmpty then none else some (String.ofList name)
  | none => return none

theorem throughBracket_eq (cs : List Char) :
    throughBracket cs = .ok (Cursor.throughBracket cs) := by
  rw [throughBracket, find?, Cursor.throughBracket]
  cases hcut : splitFirst? (· == '>') cs with
  | none => rfl
  | some cut =>
    obtain ⟨before, after⟩ := cut
    obtain ⟨-, c, tail, rfl, hc⟩ := exists_of_splitFirst? hcut
    obtain rfl := beq_iff_eq.mp hc
    -- the bracket has one byte
    have hcs : cs = (before ++ ['>']) ++ tail := by
      rw [← splitFirst?_append hcut, ← List.append_cons]
    exact (congrArg (slice cs 0) (size_append _ _ _).symm).trans (slice_front hcs)

/-- The first `</` is found by its byte and by the text behind it. -/
theorem exists_behindClosingMark? (cs : List Char) :
    (behindClosingMark? cs = none ∧ findClosing? cs = none) ∨
      ∃ front rest, cs = front ++ '<' :: '/' :: rest ∧ behindClosingMark? cs = some rest ∧
        findClosing? cs = some (size utf8Width front) := by
  induction cs using behindClosingMark?.induct with
  | case1 => exact .inl ⟨rfl, rfl⟩
  | case2 rest => exact .inr ⟨[], rest, rfl, rfl, rfl⟩
  | case3 c rest hmark ih =>
    rw [behindClosingMark?.eq_3 c rest hmark, findClosing?.eq_3 c rest hmark]
    obtain ⟨hnone, hfind⟩ | ⟨front, after, rfl, hsome, hfind⟩ := ih
    · exact .inl ⟨hnone, by rw [hfind]; rfl⟩
    · exact .inr ⟨c :: front, after, rfl, hsome, by rw [hfind, size_cons]; rfl⟩

/-- The bytes in front of the text that the name is read from in a fragment without a blank. -/
theorem exists_front_nameRegion (inner : List Char) :
    ∃ front, '<' :: inner = front ++ (behindClosingMark? ('<' :: inner)).getD inner ∧
      (findClosing? ('<' :: inner)).elim 1 (· + 2) = size utf8Width front := by
  obtain ⟨hnone, hfind⟩ | ⟨front, rest, hcs, hsome, hfind⟩ :=
    exists_behindClosingMark? ('<' :: inner)
  · rw [hnone, hfind]
    exact ⟨['<'], rfl, rfl⟩
  · rw [hsome, hfind]
    refine ⟨front ++ ['<', '/'], ?_, ?_⟩
    · rw [hcs, List.append_assoc]
      rfl
    · rw [size_append]
      rfl

theorem nameRegion_eq (inner : List Char) :
    nameRegion ('<' :: inner) = .ok (Cursor.nameRegion inner) := by
  have hopening : isSeparator '<' = false := rfl
  rw [nameRegion, find?, splitFirst?_eq, Cursor.nameRegion, List.any_cons, hopening, Bool.false_or]
  by_cases hblank : inner.any isSeparator = true
  · have hinner : '<' :: inner = ['<'] ++
        (inner.takeWhile (fun c => !isSeparator c) ++ inner.dropWhile fun c => !isSeparator c) := by
      rw [List.takeWhile_append_dropWhile]
      rfl
    rw [if_pos hblank, if_pos hblank, List.takeWhile_cons_of_pos rfl]
    exact slice_eq hinner rfl rfl
  · -- without a blank the name may stand behind the mark of a closing tag
    obtain ⟨front, hfront, hstart⟩ := exists_front_nameRegion inner
    rw [if_neg hblank, if_neg hblank]
    simp only [Option.map_none, hstart, slice_back hfront, ok_bind]
    generalize (behindClosingMark? ('<' :: inner)).getD inner = rest at hfront ⊢
    rw [find?, splitFirst?_eq]
    by_cases hclose : rest.any (· == '>') = true
    · have hcut : '<' :: inner =
          front ++ (rest.takeWhile (· != '>') ++ rest.dropWhile (· != '>')) := by
        rw [List.takeWhile_append_dropWhile, hfront]
      rw [if_pos hclose]
      exact slice_eq hcut rfl rfl
    · have hrest : rest.takeWhile (· != '>') = rest := by
        rw [List.takeWhile_eq_self_iff]
        intro c hc
        rw [bne_iff_ne]
        rintro rfl
        exact hclose (List.any_eq_true.mpr ⟨_, hc, rfl⟩)
      rw [if_neg hclose, hrest]
      exact slice_back hfront

theorem enclosingTag_eq (cursor : Position) :
    enclosingTag doc cursor = .ok (doc.enclosingTag? cursor) := by
  simp only [enclosingTag, Document.enclosingTag?, clamp_eq, textUntil_eq, textFrom_eq, ok_bind]
  obtain ⟨-, hcut⟩ | ⟨front, c, back, htext, hc, -, hcut⟩ :=
    splitLast?_cases (· == '<') (doc.textUntil (doc.clamp cursor))
  · rw [findLast?, hcut]
    rfl
  · obtain rfl := beq_iff_eq.mp hc
    simp only [findLast?, hcut, Option.map_some, slice_back htext, throughBracket_eq, ok_bind,
      List.cons_append, nameRegion_eq]
    rfl

/-! ### The attribute at the cursor -/

/-- The text of the cursor line from its last gap to an equals sign. -/
def nameFragment (doc : Document) (cursor : Position) : Checked (Option (List Char)) := do
  let before ← textBefore doc cursor
  match findLast? isGap before with
  | none => return none
  | some gap =>
    match (findLast? (· == '=') before).filter (gap < ·) with
    | some stop => return some (← slice before gap stop)
    | none =>
      let after ← textAfter doc cursor
      match find? (· == '=') after with
      | none => return none
      | some stop =>
        return some ((← slice before gap (size utf8Width before)) ++ (← slice after 0 stop))

/-- The attribute that the cursor stands on or in the value of. -/
def attributeAround (doc : Document) (cursor : Position) : Checked (Option String) := do
  match ← nameFragment doc cursor with
  | none => return none
  | some fragment =>
    let name := trim fragment
    return if fragment.contains '<' || name.isEmpty then none else some (String.ofList name)

/-- The text in front of the last quote; the whole text if there is none. -/
def beforeQuote (cs : List Char) : Checked (List Char) :=
  match findLast? isQuote cs with
  | some stop => slice cs 0 stop
  | none => return cs

/-- The text after the last gap in front of the last quote. -/
def assignmentFragment (before : List Char) : Checked (List Char) := do
  let start := (findLast? isGap (← beforeQuote before)).elim 0 (· + 1)
  slice before start (size utf8Width before)

/-- The attribute whose quoted value is being typed at the cursor. -/
def attributeBefore (doc : Document) (cursor : Position) : Checked (Option String) := do
  let fragment ← assignmentFragment (← textBefore doc cursor)
  return if hasQuoted fragment then none else (assignedName? [] fragment).map String.ofList

/-- The quote of the value that the cursor is in. -/
def valueQuote (doc : Document) (cursor : Position) : Checked (Option OpenQuote) := do
  return openQuote? (← textBefore doc cursor)

/-- The last equals sign of a line counts if it stands behind the last gap, and is then the last one
behind the gap. -/
theorem filter_findLast? {gap : Char} (hgap : isGap gap = true) (front back : List Char) :
    (findLast? (· == '=') (front ++ gap :: back)).filter (size utf8Width front < ·) =
      (splitLast? (· == '=') (gap :: back)).map fun cut =>
        size utf8Width front + size utf8Width cut.1 := by
  rw [findLast?]
  obtain ⟨hnone, hcut⟩ | ⟨before, c, rest, htext, hc, hrest, hcut⟩ :=
    splitLast?_cases (· == '=') (gap :: back)
  · -- what is found then stands in front of the gap
    rw [hcut, splitLast?_append_right front hnone]
    obtain ⟨-, hfront⟩ | ⟨before, c, rest, rfl, -, -, hfront⟩ := splitLast?_cases (· == '=') front
    · rw [hfront]
      rfl
    · rw [hfront, Option.map_some, Option.map_some, Option.filter_some, if_neg (by simp)]
      rfl
  · have hwhole : splitLast? (· == '=') (front ++ gap :: back) =
        some (front ++ before, c :: rest) := by
      rw [htext, ← List.append_assoc]
      exact splitLast?_append_cons hc hrest
    -- the gap itself is no equals sign, so the sign stands further behind
    have hne : before ≠ [] := by
      rintro rfl
      obtain rfl : gap = c := (List.cons.inj htext).1
      rw [beq_iff_eq.mp hc] at hgap
      cases hgap
    have hpos : 0 < size utf8Width before := by
      obtain ⟨d, ds, rfl⟩ := List.exists_cons_of_ne_nil hne
      rw [size_cons]
      exact Nat.add_pos_left (utf8Width_pos d) _
    rw [hcut, hwhole, Option.map_some, Option.map_some, size_append, Option.filter_some,
      if_pos (by simpa using hpos)]

theorem nameFragment_eq (cursor : Position) :
    nameFragment doc cursor =
      .ok (nameFragment? (doc.textBefore cursor) (doc.textAfter cursor)) := by
  rw [nameFragment, textBefore_eq, ok_bind, nameFragment?]
  obtain ⟨-, hcut⟩ | ⟨front, gap, back, htext, hgap, -, hcut⟩ :=
    splitLast?_cases isGap (doc.textBefore cursor)
  · rw [findLast?, hcut]
    rfl
  · have hlast : findLast? isGap (doc.textBefore cursor) = some (size utf8Width front) := by
      rw [findLast?, hcut]
      rfl
    have hsign := filter_findLast? hgap front back
    rw [← htext] at hsign
    simp only [hlast, hcut, hsign]
    cases hequals : splitLast? (· == '=') (gap :: back) with
    | some cut =>
      have hpart : doc.textBefore cursor = front ++ (cut.1 ++ cut.2) := by
        rw [htext, splitLast?_append hequals]
      simp only [Option.map_some, slice_eq hpart rfl rfl, ok_bind]
      rfl
    | none =>
      simp only [Option.map_none, textAfter_eq, ok_bind, find?]
      cases hafter : splitFirst? (· == '=') (doc.textAfter cursor) with
      | none => rfl
      | some cut =>
        simp only [Option.map_some, slice_back htext,
          slice_front (splitFirst?_append hafter).symm, ok_bind]
        rfl

theorem attributeAround_eq (cursor : Position) :
    attributeAround doc cursor = .ok (doc.attributeAround? cursor) := by
  rw [attributeAround, nameFragment_eq, ok_bind, Document.attributeAround?]
  cases nameFragment? (doc.textBefore cursor) (doc.textAfter cursor) with
  | none => rfl
  | some fragment => rfl

/-- The bytes up to the last gap, the gap included. -/
theorem elim_findLast? (cs : List Char) :
    (findLast? isGap cs).elim 0 (· + 1) =
      size utf8Width (dropEndWhile (fun c => !isGap c) cs) := by
  have hnil : ∀ xs : List Char, (∀ c ∈ xs, isGap c = false) →
      dropEndWhile (fun c => !isGap c) xs = [] := by
    intro xs hxs
    rw [dropEndWhile, List.reverse_eq_nil_iff, List.dropWhile_eq_nil_iff]
    exact fun c hc => by simp [hxs c (List.mem_reverse.mp hc)]
  rw [findLast?]
  obtain ⟨hnone, hcut⟩ | ⟨front, gap, back, rfl, hgap, hback, hcut⟩ := splitLast?_cases isGap cs
  · rw [hcut, hnil cs hnone]
    rfl
  · -- a gap has one byte, so the byte behind it is where the next character starts
    have hwidth : utf8Width gap = 1 := by
      rcases Bool.or_eq_true _ _ ▸ hgap with h | h <;> rw [beq_iff_eq.mp h] <;> rfl
    have hlast : (front ++ [gap]).getLast?.any (fun c => !isGap c) = false := by
      rw [List.getLast?_concat]
      simp [hgap]
    rw [hcut, List.append_cons, dropEndWhile_append hlast, hnil back hback, List.append_nil,
      size_append, size_cons, hwidth]
    rfl

theorem beforeQuote_eq (cs : List Char) :
    beforeQuote cs = .ok ((splitLast? isQuote cs).getD (cs, [])).1 := by
  rw [beforeQuote, findLast?]
  cases hcut : splitLast? isQuote cs with
  | none => rfl
  | some cut => exact slice_front (splitLast?_append hcut).symm

theorem assignmentFragment_eq (before : List Char) :
    assignmentFragment before = .ok (Cursor.assignmentFragment before) := by
  have hbefore : before = ((splitLast? isQuote before).getD (before, [])).1 ++
      ((splitLast? isQuote before).getD (before, [])).2 := by
    cases hcut : splitLast? isQuote before with
    | none => exact (List.append_nil _).symm
    | some cut => exact (splitLast?_append hcut).symm
  rw [assignmentFragment, beforeQuote_eq, ok_bind, elim_findLast?]
  refine slice_back (hbefore.trans ?_)
  rw [Cursor.assignmentFragment, ← List.append_assoc, dropEndWhile_append_takeEndWhile]

theorem attributeBefore_eq (cursor : Position) :
    attributeBefore doc cursor = .ok (doc.attributeBefore? cursor) := by
  simp only [attributeBefore, textBefore_eq, assignmentFragment_eq, ok_bind]
  rfl

theorem valueQuote_eq (cursor : Position) :
    valueQuote doc cursor = .ok (doc.valueQuote? cursor) := by
  rw [valueQuote, textBefore_eq, ok_bind]
  rfl

/-! ### What the cursor is on -/

/-- The attribute value that the cursor is in, by tag and attribute name. -/
def valueContext (doc : Document) (cursor : Position) : Checked (Option (String × String)) := do
  match ← valueQuote doc cursor with
  | none => return none
  | some _ =>
    let tag ← enclosingTag doc cursor
    -- the line is read a second time only if the first reading finds nothing
    let name ← match ← attributeBefore doc cursor with
      | some name => pure (some name)
      | none => attributeAround doc cursor
    return tag.bind fun tag => name.map fun name => (tag, name)

/-- What a position is on. -/
def context (doc : Document) (cursor : Position) : Checked CursorContext := do
  let cursor ← clamp doc cursor
  match ← valueContext doc cursor with
  | some (tag, name) => return .attributeValue tag name
  | none =>
    match ← openTag doc cursor with
    | some tag => return .attributeName tag
    | none =>
      match typedTag? (← textBefore doc cursor) with
      | some typed => return .tagStart (String.ofList typed)
      | none => return .unknown

/-- What documentation is asked for at a position. -/
def hoverTarget (doc : Document) (cursor : Position) : Checked HoverTarget := do
  let cursor ← clamp doc cursor
  let name ← attributeAround doc cursor
  return ⟨← enclosingTag doc cursor, name.map fun name => String.ofList (dropBinding name.toList)⟩

/-- The range of the word that touches the cursor. -/
def wordRange (doc : Document) (cursor : Position) : Checked (Option Range) := do
  let cursor ← clamp doc cursor
  let before := (takeEndWhile isWordChar (← textBefore doc cursor)).length
  let after := ((← textAfter doc cursor).takeWhile isWordChar).length
  if before = 0 ∧ after = 0 then return none
  else
    let start ← minus cursor.character before
    return some (.onLine cursor.line start (cursor.character + after))

theorem valueContext_eq (cursor : Position) :
    valueContext doc cursor = .ok (doc.valueContext? cursor) := by
  rw [valueContext, valueQuote_eq, ok_bind, Document.valueContext?]
  cases doc.valueQuote? cursor with
  | none => rfl
  | some quote =>
    simp only [enclosingTag_eq, attributeBefore_eq, attributeAround_eq, ok_bind]
    cases doc.enclosingTag? cursor <;> cases doc.attributeBefore? cursor <;>
      cases doc.attributeAround? cursor <;> rfl

theorem context_eq (cursor : Position) : context doc cursor = .ok (doc.context cursor) := by
  simp only [context, Document.context, clamp_eq, valueContext_eq, ok_bind]
  cases doc.valueContext? (doc.clamp cursor) with
  | some value => rfl
  | none =>
    simp only [openTag_eq, ok_bind]
    cases doc.openTag? (doc.clamp cursor) with
    | some tag => rfl
    | none =>
      simp only [textBefore_eq, ok_bind]
      cases typedTag? (doc.textBefore (doc.clamp cursor)) with
      | some typed => rfl
      | none => rfl

theorem hoverTarget_eq (cursor : Position) :
    hoverTarget doc cursor = .ok (doc.hoverTarget cursor) := by
  simp only [hoverTarget, clamp_eq, attributeAround_eq, enclosingTag_eq, ok_bind]
  rfl

theorem wordRange_eq (cursor : Position) :
    wordRange doc cursor = .ok (doc.wordRange? cursor) := by
  simp only [wordRange, Document.wordRange?, clamp_eq, textBefore_eq, textAfter_eq, ok_bind,
    minus_eq (doc.length_takeEndWhile_le (doc.clamp cursor))]
  split <;> rfl

end Checked

end MarkupAssist
