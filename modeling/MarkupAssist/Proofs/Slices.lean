import MarkupAssist.Proofs.Clamping

/-!
# Lines and slices

A document is cut into lines at its line feeds, and into slices at positions. Neither cut loses
text, although a position may be past the end of its line or of the text, and although the text of a
line is without the carriage return that may stand at its end.

* `Document.rawLines_eq_splitOn`: the recursion `breakLines` splits the text at its line feeds. The
  text of a line is one of these pieces, less a carriage return (`eq_dropReturn_or`).
* `Document.textUntil_append_textInRange`: the text before a position is the text before an earlier
  one, followed by the text between the two. This is where positions have to be in the order of
  their places (`Document.offsetAt_mono`). That ranges add up follows by cancelling the text before
  the first position.

`slices_partition` collects these.
-/

namespace MarkupAssist

/-! ### Pieces between line feeds -/

theorem breakLines_eq_splitOn (cs : List Char) :
    (breakLines cs).1 :: (breakLines cs).2 = cs.splitOn '\n' := by
  induction cs with
  | nil => rfl
  | cons c cs ih =>
    rw [List.splitOn, List.splitOnP_cons_eq_if_modifyHead, ← List.splitOn, ← ih, breakLines]
    -- a line feed opens a new piece, any other character goes in front of the first one
    by_cases hc : c = '\n' <;> simp [hc]

/-- One carriage return is dropped from a line that ends with one, and nothing from any other. -/
theorem eq_dropReturn_or (line : List Char) :
    line = dropReturn line ++ ['\r'] ∨ line = dropReturn line ∧ line.getLast? ≠ some '\r' := by
  by_cases hreturn : line.getLast? = some '\r'
  · left
    rw [dropReturn, if_pos hreturn]
    exact (List.dropLast_append_getLast? '\r' hreturn).symm
  · exact .inr ⟨(if_neg hreturn).symm, hreturn⟩

namespace Document

variable {doc : Document}

theorem rawLines_eq_splitOn (doc : Document) : doc.rawLines = doc.chars.splitOn '\n' :=
  breakLines_eq_splitOn doc.chars

/-- **A line of the document is a piece between two line feeds.** -/
theorem exists_piece {n : Nat} (hn : n < doc.lineCount) :
    ∃ piece, (doc.chars.splitOn '\n')[n]? = some piece ∧ doc.lineText n = dropReturn piece := by
  rw [← rawLines_eq_splitOn]
  refine ⟨_, List.getElem?_eq_getElem hn, ?_⟩
  rw [lineText, line?, List.getElem?_eq_getElem hn]
  rfl

theorem lineText_eq_nil {n : Nat} (hn : doc.lineCount ≤ n) : doc.lineText n = [] := by
  rw [lineText, line?_eq_none_iff.mpr hn, Option.getD_none]

theorem textUntil_eq_chars {p : Position} (hp : doc.lineCount ≤ p.line) :
    doc.textUntil p = doc.chars := by
  rw [textUntil, offsetAt, line?_eq_none_iff.mpr hp, List.take_length]

/-! ### Ranges -/

variable {p q r : Position}

/-- **The text of a range is what stands between its ends.** -/
theorem textUntil_append_textInRange (hle : p ≤ q) :
    doc.textUntil p ++ doc.textInRange ⟨p, q⟩ = doc.textUntil q := by
  have hprefix : doc.textUntil p <+: doc.textUntil q :=
    List.take_prefix_take_left (offsetAt_mono hle)
  rwa [List.prefix_iff_eq_append, length_textUntil] at hprefix

/-- **Ranges that touch add up.** -/
theorem textInRange_append (hpq : p ≤ q) (hqr : q ≤ r) :
    doc.textInRange ⟨p, q⟩ ++ doc.textInRange ⟨q, r⟩ = doc.textInRange ⟨p, r⟩ := by
  -- both sides lead from the text before `p` to the text before `r`
  have hwhole := calc
    doc.textUntil p ++ (doc.textInRange ⟨p, q⟩ ++ doc.textInRange ⟨q, r⟩)
      = doc.textUntil q ++ doc.textInRange ⟨q, r⟩ := by
        rw [← List.append_assoc, textUntil_append_textInRange hpq]
    _ = doc.textUntil r := textUntil_append_textInRange hqr
    _ = doc.textUntil p ++ doc.textInRange ⟨p, r⟩ :=
        (textUntil_append_textInRange (Position.le_trans hpq hqr)).symm
  exact List.append_cancel_left hwhole

theorem textInRange_eq_nil (hle : q ≤ p) : doc.textInRange ⟨p, q⟩ = [] := by
  refine List.drop_eq_nil_of_le ?_
  rw [← textUntil, length_textUntil]
  exact offsetAt_mono hle

end Document

/-! ### The cuts of a document -/

/-- **Lines and slices lose nothing.** There is one line more than there are line feeds, and the
text of a line is the piece between two of them, without one carriage return if the piece ends with
one. The texts before and after a position are the whole text. On its line they are the text of the
line, cut at the character of the position or at its end, and what stands before the position on its
line follows the lines above in what stands before it in the document. The text between two
positions leads from the text before the first to the text before the second, so ranges that touch
add up, and a range that does not go forward is empty. -/
theorem slices_partition (doc : Document) :
    doc.lineCount = doc.chars.count '\n' + 1 ∧
    (∀ n < doc.lineCount, ∃ piece, (doc.chars.splitOn '\n')[n]? = some piece ∧
      (piece = doc.lineText n ++ ['\r'] ∨
        piece = doc.lineText n ∧ piece.getLast? ≠ some '\r')) ∧
    (∀ n, doc.lineCount ≤ n → doc.lineText n = []) ∧
    (∀ p, doc.textUntil p ++ doc.textFrom p = doc.chars) ∧
    (∀ p : Position, p.line < doc.lineCount →
      doc.textBefore p ++ doc.textAfter p = doc.lineText p.line ∧
      (doc.textBefore p).length = min p.character (doc.lineText p.line).length ∧
      doc.textBefore p <:+ doc.textUntil p ∧
      doc.textUntil p = unlines ((doc.chars.splitOn '\n').take p.line) ++ doc.textBefore p) ∧
    (∀ p : Position, doc.lineCount ≤ p.line → doc.textUntil p = doc.chars) ∧
    (∀ p q, p ≤ q → doc.textUntil p ++ doc.textInRange ⟨p, q⟩ = doc.textUntil q) ∧
    (∀ p q r, p ≤ q → q ≤ r →
      doc.textInRange ⟨p, q⟩ ++ doc.textInRange ⟨q, r⟩ = doc.textInRange ⟨p, r⟩) ∧
    (∀ p q, q ≤ p → doc.textInRange ⟨p, q⟩ = []) := by
  refine ⟨doc.lineCount_eq, fun n hn => ?_, fun n => Document.lineText_eq_nil,
    fun p => (doc.textUntil_append_textFrom p).symm, fun p hp => ?_,
    fun p => Document.textUntil_eq_chars, fun p q => Document.textUntil_append_textInRange,
    fun p q r => Document.textInRange_append, fun p q => Document.textInRange_eq_nil⟩
  · obtain ⟨piece, hpiece, htext⟩ := Document.exists_piece hn
    refine ⟨piece, hpiece, ?_⟩
    rw [htext]
    exact eq_dropReturn_or piece
  · have huntil := Document.textUntil_eq_unlines hp
    refine ⟨List.take_append_drop _ _, List.length_take, ⟨_, huntil.symm⟩, ?_⟩
    rwa [← doc.rawLines_eq_splitOn]

/-- Positions past the end of a line and past the last line of a text whose lines end with carriage
returns. The first range ends in front of a return, so the second one starts with it. -/
theorem slices_partition_returnText :
    (∃ piece, (returnText.chars.splitOn '\n')[2]? = some piece ∧
      (piece = returnText.lineText 2 ++ ['\r'] ∨
        piece = returnText.lineText 2 ∧ piece.getLast? ≠ some '\r')) ∧
    returnText.lineText 3 = [] ∧
    (returnText.textBefore ⟨0, 40⟩).length = min 40 (returnText.lineText 0).length ∧
    returnText.textBefore ⟨2, 1⟩ <:+ returnText.textUntil ⟨2, 1⟩ ∧
    returnText.textUntil ⟨7, 0⟩ = returnText.chars ∧
    returnText.textInRange ⟨⟨0, 0⟩, ⟨0, 40⟩⟩ ++ returnText.textInRange ⟨⟨0, 40⟩, ⟨7, 0⟩⟩ =
      returnText.textInRange ⟨⟨0, 0⟩, ⟨7, 0⟩⟩ ∧
    returnText.textInRange ⟨⟨0, 40⟩, ⟨7, 0⟩⟩ = "\r\n\rx\nb\r".toList ∧
    returnText.textInRange ⟨⟨7, 0⟩, ⟨0, 40⟩⟩ = [] := by
  obtain ⟨-, hline, hpast, -, haround, hend, -, hranges, hreversed⟩ := slices_partition returnText
  exact ⟨hline 2 (by decide), hpast 3 (by decide), (haround ⟨0, 40⟩ (by decide)).2.1,
    (haround ⟨2, 1⟩ (by decide)).2.2.1, hend ⟨7, 0⟩ (by decide),
    hranges _ _ _ (by decide) (by decide), by decide, hreversed _ _ (by decide)⟩

end MarkupAssist
