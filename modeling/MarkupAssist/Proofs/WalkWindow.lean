import MarkupAssist.Proofs.TagWalk

/-!
# What the walk sees

`Document.openTag?` reads at most nine lines above the cursor line and, on the cursor line, the text
before the cursor. This is its window. The token that it returns counts characters from the start of
the document, so it is compared with the start of the window.

* `Document.window`, `Document.windowBreaks`, `Document.windowStart`: the texts of the window, the
  line breaks between them, and the number of characters in front of it.
* `AgreeFrom`: two answers of the walk, in two documents, that differ only in where their windows
  start.
* `agreeFrom_line`, `agreeFrom_cursorLine`: one line of the walk. A line of the window is as long in
  both documents, and it starts as far behind the start of the window. The cursor line may be of
  different length, but a tag found on it stands before the cursor.
* `agreeFrom_above`: the walk through the lines above, by induction on their number.
-/

namespace MarkupAssist

open Text Cursor

/-- The line break behind a line, with its carriage return if it has one. -/
def lineBreak (raw : List Char) : List Char :=
  raw.drop (dropReturn raw).length ++ ['\n']

/-- The text of a line and its break tell the line. -/
theorem dropReturn_append_lineBreak (raw : List Char) :
    dropReturn raw ++ lineBreak raw = raw ++ ['\n'] := by
  rw [lineBreak, ← List.append_assoc]
  congr 1
  exact List.prefix_iff_eq_append.mp (isPrefix_dropReturn raw)

theorem eq_of_texts_of_breaks {lines lines' : List (List Char)}
    (htexts : lines.map dropReturn = lines'.map dropReturn)
    (hbreaks : lines.map lineBreak = lines'.map lineBreak) : lines = lines' := by
  have hpairs : lines.map (fun l => (dropReturn l, lineBreak l)) =
      lines'.map (fun l => (dropReturn l, lineBreak l)) := by
    rw [← List.zip_map', ← List.zip_map', htexts, hbreaks]
  refine List.map_injective_iff.mpr (fun raw raw' hpair => ?_) hpairs
  obtain ⟨htext, hbreak⟩ := Prod.mk.inj hpair
  have hraw := dropReturn_append_lineBreak raw
  rw [htext, hbreak, dropReturn_append_lineBreak] at hraw
  exact (List.append_cancel_right hraw).symm

namespace Document

/-- The lines above a line that are in its window, each without its line feed but with its carriage
return, the uppermost one first. -/
def windowLines (doc : Document) (line : Nat) : List (List Char) :=
  (doc.rawLines.take line).drop (line - 9)

/-- The texts of the up to nine lines above the cursor line, and the text before the cursor. -/
def window (doc : Document) (cursor : Position) : List (List Char) :=
  (doc.windowLines cursor.line).map dropReturn ++ [doc.textBefore cursor]

/-- The line breaks between the texts of the window. -/
def windowBreaks (doc : Document) (cursor : Position) : List (List Char) :=
  (doc.windowLines cursor.line).map lineBreak

/-- The number of characters in front of the window. -/
def windowStart (doc : Document) (cursor : Position) : Nat :=
  doc.lineStart (cursor.line - 9)

variable {doc : Document}

/-- A line starts behind the window's lines above it. -/
theorem lineStart_window {line j : Nat} (hj : j ≤ (doc.windowLines line).length) :
    doc.lineStart (line - 9 + j) =
      doc.lineStart (line - 9) + (unlines ((doc.windowLines line).take j)).length := by
  have htake : doc.rawLines.take (line - 9 + j) =
      doc.rawLines.take (line - 9) ++ (doc.windowLines line).take j := by
    rw [windowLines, List.length_drop, List.length_take] at hj
    rw [windowLines, List.take_add, List.drop_take, List.take_take, Nat.min_eq_left (by omega)]
  rw [lineStart_eq, lineStart_eq, htake, unlines_append, List.length_append]

theorem length_windowLines {line : Nat} (hline : line < doc.lineCount) :
    line - 9 + (doc.windowLines line).length = line := by
  rw [lineCount] at hline
  rw [windowLines, List.length_drop, List.length_take]
  omega

/-- The place of a character on a line of the window. -/
theorem offsetAt_window {line j i : Nat} (hline : line < doc.lineCount) {raw : List Char}
    (hraw : (doc.windowLines line)[j]? = some raw) :
    doc.offsetAt ⟨line - 9 + j, i⟩ = doc.lineStart (line - 9) +
      ((unlines ((doc.windowLines line).take j)).length + min i (dropReturn raw).length) := by
  obtain ⟨hj, -⟩ := List.getElem?_eq_some_iff.mp hraw
  have hexists : doc.line? (line - 9 + j) = some (dropReturn raw) := by
    have hlength := length_windowLines hline
    rw [windowLines, List.getElem?_drop, List.getElem?_take_of_lt (by omega)] at hraw
    rw [line?, hraw, Option.map_some]
  simp only [offsetAt, hexists]
  rw [lineStart_window (Nat.le_of_lt hj), Nat.add_assoc]

/-- The place of a character before the cursor on its line. -/
theorem offsetAt_cursorLine {cursor : Position} {i : Nat} (hline : cursor.line < doc.lineCount)
    (hi : i ≤ (doc.textBefore cursor).length) :
    doc.offsetAt ⟨cursor.line, i⟩ =
      doc.windowStart cursor + ((unlines (doc.windowLines cursor.line)).length + i) := by
  obtain ⟨text, htext⟩ := exists_line?_of_lt hline
  have hstart := lineStart_window (Nat.le_refl (doc.windowLines cursor.line).length)
  rw [length_windowLines hline, List.take_length] at hstart
  rw [textBefore, lineText, htext, Option.getD_some, List.length_take] at hi
  simp only [offsetAt, htext]
  rw [hstart, Nat.min_eq_left (by omega), windowStart, Nat.add_assoc]

end Document

/-! ### Two runs -/

/-- Two answers of the walk that agree from two places on: both are none, or both name the same tag,
as many characters behind their place. -/
def AgreeFrom (start₁ start₂ : Nat) (found₁ found₂ : Option TagToken) : Prop :=
  (found₁ = none ∧ found₂ = none) ∨
    ∃ name k, found₁ = some ⟨name, start₁ + k⟩ ∧ found₂ = some ⟨name, start₂ + k⟩

theorem AgreeFrom.or {start₁ start₂ : Nat} {found₁ found₂ later₁ later₂ : Option TagToken}
    (hfound : AgreeFrom start₁ start₂ found₁ found₂)
    (hlater : AgreeFrom start₁ start₂ later₁ later₂) :
    AgreeFrom start₁ start₂ (found₁.or later₁) (found₂.or later₂) := by
  obtain ⟨rfl, rfl⟩ | ⟨name, k, rfl, rfl⟩ := hfound
  · exact hlater
  · exact .inr ⟨name, k, rfl, rfl⟩

section TwoRuns

variable {doc₁ doc₂ : Document} {start₁ start₂ line₁ line₂ : Nat}

/-- The tags of one line agree if their places do. -/
theorem agreeFrom_tagToken? {tags : List (Nat × List Char)}
    (hplaces : ∀ i name, (i, name) ∈ tags → ∃ k, doc₁.offsetAt ⟨line₁, i⟩ = start₁ + k ∧
      doc₂.offsetAt ⟨line₂, i⟩ = start₂ + k) :
    AgreeFrom start₁ start₂ (doc₁.tagToken? line₁ tags) (doc₂.tagToken? line₂ tags) := by
  rw [Document.tagToken?, Document.tagToken?]
  cases hlast : tags.getLast? with
  | none => exact .inl ⟨rfl, rfl⟩
  | some tag =>
    obtain ⟨k, h₁, h₂⟩ := hplaces tag.1 tag.2 (List.mem_of_getLast? hlast)
    refine .inr ⟨String.ofList tag.2, k, ?_, ?_⟩
    · rw [← h₁]
      rfl
    · rw [← h₂]
      rfl

/-- One line of the window above the cursor line. -/
theorem agreeFrom_line (hline₁ : line₁ < doc₁.lineCount) (hline₂ : line₂ < doc₂.lineCount)
    (hwindow : doc₁.windowLines line₁ = doc₂.windowLines line₂) {j : Nat} {raw : List Char}
    (hraw : (doc₁.windowLines line₁)[j]? = some raw) (tags : List (Nat × List Char)) :
    AgreeFrom (doc₁.lineStart (line₁ - 9)) (doc₂.lineStart (line₂ - 9))
      (doc₁.tagToken? (line₁ - 9 + j) tags) (doc₂.tagToken? (line₂ - 9 + j) tags) := by
  refine agreeFrom_tagToken? fun i name _ => ⟨_, Document.offsetAt_window hline₁ hraw, ?_⟩
  rw [Document.offsetAt_window hline₂ (hwindow ▸ hraw), hwindow]

/-- The walk through the uppermost `j` lines of the window, from below. -/
theorem agreeFrom_above (hline₁ : line₁ < doc₁.lineCount) (hline₂ : line₂ < doc₂.lineCount)
    (hwindow : doc₁.windowLines line₁ = doc₂.windowLines line₂) {j : Nat}
    (hj : j ≤ (doc₁.windowLines line₁).length) :
    AgreeFrom (doc₁.lineStart (line₁ - 9)) (doc₂.lineStart (line₂ - 9))
      (doc₁.openTagAbove? (line₁ - 9 + j - 1)
        (((doc₁.windowLines line₁).take j).map dropReturn).reverse)
      (doc₂.openTagAbove? (line₂ - 9 + j - 1)
        (((doc₁.windowLines line₁).take j).map dropReturn).reverse) := by
  induction j with
  | zero => exact .inl ⟨rfl, rfl⟩
  | succ j ih =>
    have hraw := List.getElem?_eq_getElem hj
    -- the line nearest to the cursor comes first
    rw [List.take_add_one, hraw, Option.toList_some, List.map_append, List.map_cons, List.map_nil,
      List.reverse_append, List.reverse_singleton, List.singleton_append, Document.openTagAbove?,
      Document.openTagAbove?]
    split
    · exact .inl ⟨rfl, rfl⟩
    · have hstep := agreeFrom_line hline₁ hline₂ hwindow hraw
        (openTags true (dropReturn (doc₁.windowLines line₁)[j]))
      obtain ⟨h₁, h₂⟩ | ⟨name, k, h₁, h₂⟩ := hstep
      · simp only [Nat.add_succ_sub_one, h₁, h₂]
        exact ih (Nat.le_of_succ_le hj)
      · simp only [Nat.add_succ_sub_one, h₁, h₂]
        exact .inr ⟨name, k, rfl, rfl⟩

variable {cursor₁ cursor₂ : Position}

/-- The cursor line, of which only the text before the cursor is the same. -/
theorem agreeFrom_cursorLine (hline₁ : cursor₁.line < doc₁.lineCount)
    (hline₂ : cursor₂.line < doc₂.lineCount)
    (hwindow : doc₁.windowLines cursor₁.line = doc₂.windowLines cursor₂.line)
    (hbefore : doc₁.textBefore cursor₁ = doc₂.textBefore cursor₂) :
    AgreeFrom (doc₁.windowStart cursor₁) (doc₂.windowStart cursor₂)
      (doc₁.tagToken? cursor₁.line (openTags false (doc₁.textBefore cursor₁)))
      (doc₂.tagToken? cursor₂.line (openTags false (doc₁.textBefore cursor₁))) := by
  refine agreeFrom_tagToken? fun i name hmem => ?_
  obtain ⟨front, rest, hsplit, hlength, -⟩ := exists_of_mem_openTags hmem
  have hi : i ≤ (doc₁.textBefore cursor₁).length := by
    rw [hsplit, List.length_append]
    omega
  refine ⟨_, Document.offsetAt_cursorLine hline₁ hi, ?_⟩
  rw [Document.offsetAt_cursorLine hline₂ (hbefore ▸ hi), hwindow]

end TwoRuns

theorem Document.openTag?_window {doc : Document} {cursor : Position}
    (hline : cursor.line < doc.lineCount) :
    doc.openTag? cursor =
      if stopsAtCursor (doc.textBefore cursor) then none
      else (doc.tagToken? cursor.line (openTags false (doc.textBefore cursor))).or
        (doc.openTagAbove? (cursor.line - 1)
          ((doc.windowLines cursor.line).map dropReturn).reverse) := by
  obtain ⟨text, htext⟩ := exists_line?_of_lt hline
  have hclamp : (doc.clamp cursor).line = cursor.line := by rw [clamp, htext]
  rw [openTag?, textBefore_clamp htext, hclamp]
  split
  · rfl
  · cases doc.tagToken? cursor.line (openTags false (doc.textBefore cursor)) <;> rfl

/-- **The walk sees only its window.** Take two cursors on lines of two documents. If the texts of
the up to nine lines above the cursor line and the text before the cursor are the same, and so are
the line breaks between them, then the walk finds nothing in both documents, or it finds the same
name as far behind the start of the window. So neither the text behind the cursor nor the text
further up matters to it. -/
theorem walk_sees_window (doc₁ doc₂ : Document) (cursor₁ cursor₂ : Position)
    (hline₁ : cursor₁.line < doc₁.lineCount) (hline₂ : cursor₂.line < doc₂.lineCount)
    (hwindow : doc₁.window cursor₁ = doc₂.window cursor₂)
    (hbreaks : doc₁.windowBreaks cursor₁ = doc₂.windowBreaks cursor₂) :
    (doc₁.openTag? cursor₁ = none ∧ doc₂.openTag? cursor₂ = none) ∨
      ∃ name k, doc₁.openTag? cursor₁ = some ⟨name, doc₁.windowStart cursor₁ + k⟩ ∧
        doc₂.openTag? cursor₂ = some ⟨name, doc₂.windowStart cursor₂ + k⟩ := by
  obtain ⟨htexts, hlast⟩ := List.append_inj' hwindow rfl
  have hbefore : doc₁.textBefore cursor₁ = doc₂.textBefore cursor₂ := List.singleton_inj.mp hlast
  have hlines := eq_of_texts_of_breaks htexts hbreaks
  have habove := agreeFrom_above hline₁ hline₂ hlines (Nat.le_refl _)
  have hlength₂ := Document.length_windowLines hline₂
  rw [← hlines] at hlength₂
  rw [List.take_length, Document.length_windowLines hline₁, hlength₂] at habove
  rw [Document.openTag?_window hline₁, Document.openTag?_window hline₂, ← hlines, ← hbefore]
  split
  · exact .inl ⟨rfl, rfl⟩
  · exact (agreeFrom_cursorLine hline₁ hline₂ hlines hbefore).or habove

/-- Nine lines above a cursor line, the first of them with a tag and a carriage return. -/
def ninthRow : List Char :=
  "  <f-row\r\n\n\n\n\n\n\n\n\n  wide".toList

/-- The lines below a closed tag, at the end of a document. -/
def rowAtEnd : Document :=
  ⟨"<f-div>\n".toList ++ ninthRow, "vue"⟩

/-- The same lines below an open tag, with text behind the cursor. -/
def rowInside : Document :=
  ⟨"é\r\n\n<f-text \n".toList ++ ninthRow ++ "=\"x\">\r\n</f-row>".toList, "html"⟩

/-- The tag on the uppermost line of the window, from a cursor past the end of its line and from one
inside a word. -/
theorem walk_sees_window_ninthRow :
    rowAtEnd.window ⟨10, 40⟩ = rowInside.window ⟨12, 6⟩ ∧
      rowAtEnd.windowBreaks ⟨10, 40⟩ = rowInside.windowBreaks ⟨12, 6⟩ ∧
      rowAtEnd.windowStart ⟨10, 40⟩ = 8 ∧ rowInside.windowStart ⟨12, 6⟩ = 13 ∧
      ∃ name k, rowAtEnd.openTag? ⟨10, 40⟩ = some ⟨name, 8 + k⟩ ∧
        rowInside.openTag? ⟨12, 6⟩ = some ⟨name, 13 + k⟩ := by
  have hwindow : rowAtEnd.window ⟨10, 40⟩ = rowInside.window ⟨12, 6⟩ := by decide +kernel
  have hbreaks : rowAtEnd.windowBreaks ⟨10, 40⟩ = rowInside.windowBreaks ⟨12, 6⟩ := by
    decide +kernel
  have hfound : rowAtEnd.openTag? ⟨10, 40⟩ ≠ none := by decide +kernel
  refine ⟨hwindow, hbreaks, by decide +kernel, by decide +kernel, ?_⟩
  exact (walk_sees_window rowAtEnd rowInside ⟨10, 40⟩ ⟨12, 6⟩ (by decide +kernel)
    (by decide +kernel) hwindow hbreaks).resolve_left fun h => hfound h.1

end MarkupAssist
