import MarkupAssist.Cursor.Word
import MarkupAssist.Proofs.ReplacedValue

/-!
# The word under the cursor

The range of the hovered word is computed from two counts: the word characters that end at the
cursor, and those that start there. The counts are taken back from and added to the column of the
cursor. What they come to is said here of the range alone.

* `Document.WordAt`: a range is the longest run of word characters that touches a position. There is
  at most one (`Document.WordAt.unique`).
* `Document.wordAt_counted`: the two counts give such a range. They cut the line into four parts,
  and the range holds the two in the middle (`Document.wordAt_parts`).

`hoveredWord_maximal` says when there is a word, that the range is that word, and that the counts
never go back beyond the start of the line.
-/

namespace MarkupAssist

namespace Text

variable {α : Type} {p : α → Bool}

theorem takeWhile_ne_nil_iff {xs : List α} : xs.takeWhile p ≠ [] ↔ xs.head?.any p = true := by
  cases xs with
  | nil => simp
  | cons x xs => cases hx : p x <;> simp [hx]

theorem takeEndWhile_ne_nil_iff {xs : List α} :
    takeEndWhile p xs ≠ [] ↔ xs.getLast?.any p = true := by
  rw [takeEndWhile, Ne, List.reverse_eq_nil_iff, ← List.head?_reverse]
  exact takeWhile_ne_nil_iff

theorem getLast?_dropEndWhile (p : α → Bool) (xs : List α) :
    (dropEndWhile p xs).getLast?.any p = false := by
  rw [dropEndWhile, List.getLast?_reverse]
  exact head?_dropWhile p xs.reverse

end Text

open Text

namespace Document

variable {doc : Document}

/-! ### The characters at a position -/

theorem getLast?_textBefore {p : Position} {text : List Char} (hline : doc.line? p.line = some text)
    (hpos : 0 < p.character) (hlength : p.character ≤ text.length) :
    (doc.textBefore p).getLast? = text[p.character - 1]? := by
  rw [textBefore, lineText, hline, Option.getD_some, List.getLast?_take, if_neg (by omega),
    List.getElem?_eq_getElem (by omega), Option.some_or]

theorem head?_textAfter {p : Position} {text : List Char} (hline : doc.line? p.line = some text) :
    (doc.textAfter p).head? = text[p.character]? := by
  rw [textAfter, lineText, hline, Option.getD_some, List.head?_drop]

/-! ### Words -/

/-- A range is the longest run of word characters that touches a position. It lies on the line of
the position, around it. It holds word characters only, at least one, and neither the character in
front of it on the line nor the one behind it is one. -/
structure WordAt (doc : Document) (p : Position) (r : Range) : Prop where
  start_line : r.start.line = p.line
  stop_line : r.stop.line = p.line
  start_le : r.start ≤ p
  le_stop : p ≤ r.stop
  within : r.stop.character ≤ (doc.lineText p.line).length
  ne_nil : doc.textInRange r ≠ []
  word : ∀ c ∈ doc.textInRange r, Cursor.isWordChar c = true
  front : (doc.textBefore r.start).getLast?.any Cursor.isWordChar = false
  back : (doc.textAfter r.stop).head?.any Cursor.isWordChar = false

namespace WordAt

variable {p : Position} {r s : Range} {text : List Char}

theorem eq_onLine (h : doc.WordAt p r) :
    r = .onLine p.line r.start.character r.stop.character := by
  obtain ⟨⟨_, i⟩, ⟨_, j⟩⟩ := r
  obtain rfl := h.start_line
  obtain rfl := h.stop_line
  rfl

theorem start_le_character (h : doc.WordAt p r) : r.start.character ≤ p.character := by
  have hle := (Position.le_iff _ _).mp h.start_le
  have hline := h.start_line
  omega

theorem character_le_stop (h : doc.WordAt p r) : p.character ≤ r.stop.character := by
  have hle := (Position.le_iff _ _).mp h.le_stop
  have hline := h.stop_line
  omega

theorem stop_le_length (hline : doc.line? p.line = some text) (h : doc.WordAt p r) :
    r.stop.character ≤ text.length := by
  have hwithin := h.within
  rwa [lineText, hline, Option.getD_some] at hwithin

/-- A character of the line between the ends of the range is a word character. -/
theorem any_getElem? (hline : doc.line? p.line = some text) (h : doc.WordAt p r) {k : Nat}
    (hlow : r.start.character ≤ k) (hhigh : k < r.stop.character) :
    text[k]?.any Cursor.isWordChar = true := by
  have hlength := h.stop_le_length hline
  obtain ⟨c, hk⟩ : ∃ c, text[k]? = some c := ⟨_, List.getElem?_eq_getElem (by omega)⟩
  have hmem : c ∈ doc.textInRange r := by
    rw [h.eq_onLine, textInRange_onLine hline]
    refine List.mem_of_getElem? (i := k - r.start.character) ?_
    rw [List.getElem?_drop, Nat.add_sub_cancel' hlow, List.getElem?_take_of_lt hhigh, hk]
  rw [hk, Option.any_some, h.word _ hmem]

/-- Two words at one position start at one column: if the first started before the second, the
character in front of the second would be one of the first. -/
theorem start_le_start (hline : doc.line? p.line = some text) (hr : doc.WordAt p r)
    (hs : doc.WordAt p s) : s.start.character ≤ r.start.character := by
  by_contra hlt
  have hstart := hs.start_le_character
  have hstop := hr.character_le_stop
  have hlength := hr.stop_le_length hline
  have hfront := hs.front
  rw [getLast?_textBefore (hs.start_line ▸ hline) (by omega) (by omega),
    hr.any_getElem? hline (by omega) (by omega)] at hfront
  exact Bool.noConfusion hfront

/-- Likewise, two words at one position stop at one column. -/
theorem stop_le_stop (hline : doc.line? p.line = some text) (hr : doc.WordAt p r)
    (hs : doc.WordAt p s) : r.stop.character ≤ s.stop.character := by
  by_contra hlt
  have hstart := hr.start_le_character
  have hstop := hs.character_le_stop
  have hback := hs.back
  rw [head?_textAfter (hs.stop_line ▸ hline),
    hr.any_getElem? hline (by omega) (by omega)] at hback
  exact Bool.noConfusion hback

theorem unique (hline : doc.line? p.line = some text) (hr : doc.WordAt p r)
    (hs : doc.WordAt p s) : r = s := by
  rw [hr.eq_onLine, hs.eq_onLine,
    Nat.le_antisymm (hs.start_le_start hline hr) (hr.start_le_start hline hs),
    Nat.le_antisymm (hr.stop_le_stop hline hs) (hs.stop_le_stop hline hr)]

theorem start_lt_stop (hline : doc.line? p.line = some text) (h : doc.WordAt p r) :
    r.start.character < r.stop.character := by
  by_contra hle
  apply h.ne_nil
  have hlength := List.length_take_le r.stop.character text
  rw [h.eq_onLine, textInRange_onLine hline, List.drop_of_length_le (by omega)]

/-- The word at a position has a character in front of the position or one behind it. -/
theorem touches (hline : doc.line? p.line = some text) (h : doc.WordAt p r) :
    (doc.textBefore p).getLast?.any Cursor.isWordChar = true ∨
      (doc.textAfter p).head?.any Cursor.isWordChar = true := by
  have hlt := h.start_lt_stop hline
  have hstart := h.start_le_character
  have hstop := h.character_le_stop
  have hlength := h.stop_le_length hline
  -- the range is not empty, so it reaches beyond the position to one side at least
  by_cases hinside : r.start.character < p.character
  · left
    rw [getLast?_textBefore hline (by omega) (by omega)]
    exact h.any_getElem? hline (by omega) (by omega)
  · right
    rw [head?_textAfter hline]
    exact h.any_getElem? hline hstart (by omega)

end WordAt

/-! ### The parts of the line -/

/-- On a line of four parts, of which the two in the middle are the word characters around a
position, these two are the word at the position. -/
theorem wordAt_parts {n : Nat} {front left right back : List Char}
    (hline : doc.line? n = some (front ++ (left ++ (right ++ back))))
    (hfront : front.getLast?.any Cursor.isWordChar = false)
    (hword : ∀ c ∈ left ++ right, Cursor.isWordChar c = true)
    (hback : back.head?.any Cursor.isWordChar = false) (hne : left ++ right ≠ []) :
    doc.WordAt ⟨n, front.length + left.length⟩
      (.onLine n front.length (front.length + left.length + right.length)) := by
  have htext : doc.lineText n = front ++ (left ++ (right ++ back)) := by
    rw [lineText, hline, Option.getD_some]
  have hrange : doc.textInRange
      (.onLine n front.length (front.length + left.length + right.length)) = left ++ right := by
    rw [textInRange_onLine hline, Nat.add_assoc, List.take_length_add_append, List.drop_left,
      ← List.append_assoc, ← List.length_append, List.take_left]
  have hbefore : doc.textBefore ⟨n, front.length⟩ = front := by
    rw [textBefore, htext, List.take_left]
  have hafter : doc.textAfter ⟨n, front.length + left.length + right.length⟩ = back := by
    rw [textAfter, htext, Nat.add_assoc, List.drop_length_add_append, List.drop_length_add_append,
      List.drop_left]
  exact {
    start_line := rfl
    stop_line := rfl
    start_le := (Position.le_iff _ _).mpr (.inr ⟨rfl, Nat.le_add_right _ _⟩)
    le_stop := (Position.le_iff _ _).mpr (.inr ⟨rfl, Nat.le_add_right _ _⟩)
    within := by
      rw [htext]
      simp only [Range.onLine, List.length_append]
      omega
    ne_nil := hrange ▸ hne
    word := hrange ▸ hword
    front := by rwa [Range.onLine, hbefore]
    back := by rwa [Range.onLine, hafter] }

/-- The word characters counted back from a position are characters of its line. -/
theorem length_takeEndWhile_le (doc : Document) (p : Position) :
    (takeEndWhile Cursor.isWordChar (doc.textBefore p)).length ≤ p.character := by
  have hcut := congrArg List.length
    (dropEndWhile_append_takeEndWhile Cursor.isWordChar (doc.textBefore p))
  have hlength := List.length_take_le p.character (doc.lineText p.line)
  rw [List.length_append, textBefore] at hcut
  rw [textBefore]
  omega

/-- The two counts give the word at a position of the text. -/
theorem wordAt_counted {p : Position} {text : List Char} (hline : doc.line? p.line = some text)
    (hlength : p.character ≤ text.length)
    (hne : takeEndWhile Cursor.isWordChar (doc.textBefore p) ++
      (doc.textAfter p).takeWhile Cursor.isWordChar ≠ []) :
    doc.WordAt p (.onLine p.line
      (p.character - (takeEndWhile Cursor.isWordChar (doc.textBefore p)).length)
      (p.character + ((doc.textAfter p).takeWhile Cursor.isWordChar).length)) := by
  obtain ⟨n, k⟩ := p
  have hfront := getLast?_dropEndWhile Cursor.isWordChar (doc.textBefore ⟨n, k⟩)
  have hback := head?_dropWhile Cursor.isWordChar (doc.textAfter ⟨n, k⟩)
  have hbefore := dropEndWhile_append_takeEndWhile Cursor.isWordChar (doc.textBefore ⟨n, k⟩)
  have hafter := List.takeWhile_append_dropWhile (p := Cursor.isWordChar)
    (l := doc.textAfter ⟨n, k⟩)
  have hword : ∀ c ∈ takeEndWhile Cursor.isWordChar (doc.textBefore ⟨n, k⟩) ++
      (doc.textAfter ⟨n, k⟩).takeWhile Cursor.isWordChar, Cursor.isWordChar c = true := by
    intro c hc
    rcases List.mem_append.mp hc with hc | hc
    · exact List.mem_takeWhile_imp (List.mem_reverse.mp hc)
    · exact List.mem_takeWhile_imp hc
  -- from here on only the four parts of the line matter, not how they were found
  generalize dropEndWhile Cursor.isWordChar (doc.textBefore ⟨n, k⟩) = front at hfront hbefore
  generalize (doc.textAfter ⟨n, k⟩).dropWhile Cursor.isWordChar = back at hback hafter
  generalize takeEndWhile Cursor.isWordChar (doc.textBefore ⟨n, k⟩) = left at *
  generalize (doc.textAfter ⟨n, k⟩).takeWhile Cursor.isWordChar = right at *
  have htext : front ++ (left ++ (right ++ back)) = text := by
    rw [← List.append_assoc, hbefore, hafter, textBefore, textAfter, lineText, hline,
      Option.getD_some, List.take_append_drop]
  have hk : k = front.length + left.length := by
    rw [← List.length_append, hbefore, textBefore, lineText, hline, Option.getD_some,
      List.length_take, Nat.min_eq_left hlength]
  have hparts := wordAt_parts (htext ▸ hline) hfront hword hback hne
  rwa [← hk, Nat.eq_sub_of_add_eq hk.symm] at hparts

theorem line?_clamp {p : Position} {text : List Char} (hline : doc.line? p.line = some text) :
    doc.line? (doc.clamp p).line = some text := by
  rw [clamp, hline, hline]

/-- There is a word exactly where one of the two counts does not stop at once. -/
theorem wordRange?_isSome_iff (doc : Document) (cursor : Position) :
    (doc.wordRange? cursor).isSome = true ↔
      (doc.textBefore (doc.clamp cursor)).getLast?.any Cursor.isWordChar = true ∨
        (doc.textAfter (doc.clamp cursor)).head?.any Cursor.isWordChar = true := by
  rw [← takeEndWhile_ne_nil_iff, ← takeWhile_ne_nil_iff, ← not_and_or]
  simp only [wordRange?, List.length_eq_zero_iff]
  split
  · next hnil => exact ⟨fun h => Bool.noConfusion h, fun h => absurd hnil h⟩
  · next hne => exact ⟨fun _ => hne, fun _ => rfl⟩

theorem wordAt_of_wordRange? {cursor : Position} {text : List Char} {r : Range}
    (hline : doc.line? cursor.line = some text) (h : doc.wordRange? cursor = some r) :
    doc.WordAt (doc.clamp cursor) r := by
  simp only [wordRange?, Option.ite_none_left_eq_some, Option.some.injEq,
    List.length_eq_zero_iff, ← List.append_eq_nil_iff] at h
  obtain ⟨hne, rfl⟩ := h
  refine wordAt_counted (line?_clamp hline) ?_ hne
  rw [clamp, hline]
  exact Nat.min_le_right _ _

end Document

/-- **The hovered range is the longest word at the cursor.** On a line of the document there is one
exactly if the character in front of the cursor or the one behind it is a word character; then the
range is the word at the cursor, and nothing else is. The count that is taken back from the column
never exceeds it. -/
theorem hoveredWord_maximal (doc : Document) (cursor : Position)
    (hline : cursor.line < doc.lineCount) :
    ((doc.wordRange? cursor).isSome = true ↔
      (doc.textBefore (doc.clamp cursor)).getLast?.any Cursor.isWordChar = true ∨
        (doc.textAfter (doc.clamp cursor)).head?.any Cursor.isWordChar = true) ∧
      (∀ r, doc.wordRange? cursor = some r ↔ doc.WordAt (doc.clamp cursor) r) ∧
      (takeEndWhile Cursor.isWordChar (doc.textBefore (doc.clamp cursor))).length ≤
        (doc.clamp cursor).character := by
  obtain ⟨text, hexists⟩ := Document.exists_line?_of_lt hline
  refine ⟨doc.wordRange?_isSome_iff cursor, ?_, doc.length_takeEndWhile_le _⟩
  intro r
  constructor
  · exact Document.wordAt_of_wordRange? hexists
  · -- where there is a word some range is found, and there is only one word
    intro hword
    have hclamp := Document.line?_clamp hexists
    have hsome := (doc.wordRange?_isSome_iff cursor).mpr (hword.touches hclamp)
    obtain ⟨s, hs⟩ := Option.isSome_iff_exists.mp hsome
    rw [hs, hword.unique hclamp (Document.wordAt_of_wordRange? hexists hs)]

/-- A word of letters of two bytes, at the end of a line that ends in a carriage return; then a line
of signs. -/
def wordPage : Document :=
  ⟨"<f-é>\né-2_ü\r\n + ".toList, "vue"⟩

/-- Behind the end of the line the cursor is at the end of the word. Between the signs there is no
word. -/
theorem hoveredWord_maximal_wordPage :
    wordPage.wordRange? ⟨1, 9⟩ = some (.onLine 1 0 5) ∧
      wordPage.WordAt ⟨1, 5⟩ (.onLine 1 0 5) ∧
      ∀ r, ¬ wordPage.WordAt ⟨2, 1⟩ r := by
  have hhere := hoveredWord_maximal wordPage ⟨1, 9⟩ (by decide)
  have hnone := hoveredWord_maximal wordPage ⟨2, 1⟩ (by decide)
  have hrange : wordPage.wordRange? ⟨1, 9⟩ = some (.onLine 1 0 5) := by decide +kernel
  have hempty : wordPage.wordRange? ⟨2, 1⟩ = none := by decide +kernel
  refine ⟨hrange, (hhere.2.1 _).mp hrange, ?_⟩
  intro r hword
  exact Option.some_ne_none r (((hnone.2.1 r).mpr hword).symm.trans hempty)

end MarkupAssist
