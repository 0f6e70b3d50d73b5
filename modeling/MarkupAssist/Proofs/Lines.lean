import Mathlib.Data.List.Basic
import MarkupAssist.Cursor.OpenTag

/-!
# A document cut at a position

`breakLines` computes the lines of a text by recursion on its characters, and
positions are moved over the text character by character. Both are read off a
text that is given as complete lines and the start of one more line, and every
text can be given so (`exists_unlines`).

* `unlines`: the text of complete lines, each with its line feed.
* `Document.Splits`: the document is the lines above a position, the text before
  the position on its line, and the text behind it. Such a position is on
  existing text, and every slice around it is one of the three parts:
  `Splits.clamp`, `Splits.textBefore`, `Splits.textUntil`, `Splits.textFrom`,
  `Splits.linesAbove`.
* `Document.exists_splits`: every position on an existing line stands, after
  clamping, at such a cut.
-/

namespace MarkupAssist

/-- The text of complete lines, each with its line feed. -/
def unlines (above : List (List Char)) : List Char :=
  above.flatMap (· ++ ['\n'])

theorem unlines_cons (line : List Char) (above : List (List Char)) :
    unlines (line :: above) = line ++ '\n' :: unlines above := by
  simp [unlines]

theorem unlines_append (above below : List (List Char)) :
    unlines (above ++ below) = unlines above ++ unlines below :=
  List.flatMap_append

theorem subset_unlines {line : List Char} {above : List (List Char)} (hline : line ∈ above) :
    line ⊆ unlines above :=
  fun _ hc => List.mem_flatMap.mpr ⟨line, hline, List.mem_append_left _ hc⟩

theorem count_unlines {above : List (List Char)} (habove : ∀ l ∈ above, '\n' ∉ l) :
    (unlines above).count '\n' = above.length := by
  induction above with
  | nil => rfl
  | cons line above ih =>
    have hline : line.count '\n' = 0 := List.count_eq_zero.mpr (habove line List.mem_cons_self)
    rw [unlines_cons, List.count_append, List.count_cons_self, hline,
      ih fun l hl => habove l (List.mem_cons_of_mem _ hl), List.length_cons]
    omega

theorem getLast?_unlines {above : List (List Char)} (hne : above ≠ []) :
    (unlines above).getLast? = some '\n' := by
  rcases List.eq_nil_or_concat above with rfl | ⟨front, line, rfl⟩
  · exact absurd rfl hne
  · rw [List.concat_eq_append, unlines_append, unlines_cons]
    simp [unlines]

/-- The last character of a text stands on its last line, unless it is a line feed. -/
theorem getLast?_of_unlines_append {above : List (List Char)} {last : List Char} {c : Char}
    (h : (unlines above ++ last).getLast? = some c) (hc : c ≠ '\n') : last.getLast? = some c := by
  by_cases hlast : last = []
  · subst hlast
    rw [List.append_nil] at h
    cases above with
    | nil => cases h
    | cons line above =>
      rw [getLast?_unlines (List.cons_ne_nil _ _)] at h
      exact absurd (Option.some.inj h).symm hc
  · rwa [List.getLast?_append_of_ne_nil _ hlast] at h

/-- What stands at the end of a text and has no line feed stands on its last line. -/
theorem exists_of_unlines_append {above : List (List Char)} {last front tail : List Char}
    (h : unlines above ++ last = front ++ tail) (htail : '\n' ∉ tail) :
    ∃ more, front = unlines above ++ more ∧ last = more ++ tail := by
  rcases List.append_eq_append_iff.mp h with ⟨more, hfront, hlast⟩ | ⟨more, hlines, rfl⟩
  · exact ⟨more, hfront, hlast⟩
  · -- no part of the complete lines is in `tail`, since they end with a line feed
    have hmore : more = [] := by
      by_contra hne
      have habove : above ≠ [] := by
        rintro rfl
        exact hne (List.append_eq_nil_iff.mp hlines.symm).2
      have hfeed := getLast?_unlines habove
      rw [hlines, List.getLast?_append_of_ne_nil _ hne] at hfeed
      exact htail (List.mem_append_left _ (List.mem_of_getLast? hfeed))
    subst hmore
    exact ⟨[], by rw [hlines, List.append_nil, List.append_nil], rfl⟩

/-- Every text is a number of complete lines and the start of one more. -/
theorem exists_unlines (cs : List Char) :
    ∃ above last, cs = unlines above ++ last ∧ (∀ l ∈ above, '\n' ∉ l) ∧ '\n' ∉ last := by
  induction cs with
  | nil => exact ⟨[], [], rfl, by simp, by simp⟩
  | cons c cs ih =>
    obtain ⟨above, last, rfl, habove, hlast⟩ := ih
    by_cases hc : c = '\n'
    · subst hc
      refine ⟨[] :: above, last, by rw [unlines_cons]; rfl, ?_, hlast⟩
      rintro l (_ | ⟨_, hl⟩)
      · exact List.not_mem_nil
      · exact habove l hl
    · -- the character belongs to the first line, complete or not
      cases above with
      | nil => exact ⟨[], c :: last, rfl, by simp, by simp [Ne.symm hc, hlast]⟩
      | cons line above =>
        refine ⟨(c :: line) :: above, last, by simp [unlines_cons], ?_, hlast⟩
        rintro l (_ | ⟨_, hl⟩)
        · simpa [Ne.symm hc] using habove line List.mem_cons_self
        · exact habove l (List.mem_cons_of_mem _ hl)

/-! ### Lines of a text -/

theorem breakLines_newline (cs : List Char) :
    breakLines ('\n' :: cs) = ([], (breakLines cs).1 :: (breakLines cs).2) := rfl

theorem breakLines_append {line : List Char} (hline : '\n' ∉ line) (cs : List Char) :
    breakLines (line ++ cs) = (line ++ (breakLines cs).1, (breakLines cs).2) := by
  induction line with
  | nil => rfl
  | cons c line ih =>
    rw [List.mem_cons, not_or] at hline
    rw [List.cons_append, breakLines, ih hline.2]
    exact if_neg (Ne.symm hline.1)

theorem Document.rawLines_unlines {doc : Document} {above : List (List Char)} {cs : List Char}
    (hchars : doc.chars = unlines above ++ cs) (habove : ∀ l ∈ above, '\n' ∉ l) :
    doc.rawLines = above ++ (breakLines cs).1 :: (breakLines cs).2 := by
  -- along the complete lines; the text behind them stays the same
  have hbreak : ∀ lines : List (List Char), (∀ l ∈ lines, '\n' ∉ l) →
      (breakLines (unlines lines ++ cs)).1 :: (breakLines (unlines lines ++ cs)).2 =
        lines ++ (breakLines cs).1 :: (breakLines cs).2 := by
    intro lines
    induction lines with
    | nil => exact fun _ => rfl
    | cons line lines ih =>
      intro hlines
      rw [unlines_cons, List.append_assoc, breakLines_append (hlines line List.mem_cons_self),
        List.cons_append, breakLines_newline, List.append_nil,
        ih fun l hl => hlines l (List.mem_cons_of_mem _ hl), List.cons_append]
  change (breakLines doc.chars).1 :: (breakLines doc.chars).2 = _
  rw [hchars, hbreak above habove]

/-- The lines of a text that is given by them. -/
theorem Document.rawLines_eq {doc : Document} {lines : List (List Char)} {last : List Char}
    (hchars : doc.chars = unlines lines ++ last) (hlines : ∀ l ∈ lines, '\n' ∉ l)
    (hlast : '\n' ∉ last) : doc.rawLines = lines ++ [last] := by
  have hbreak := breakLines_append hlast []
  rw [List.append_nil] at hbreak
  rw [rawLines_unlines hchars hlines, hbreak, breakLines, List.append_nil]

/-- A line starts behind the lines above it and their line feeds. -/
theorem Document.lineStart_eq (doc : Document) (n : Nat) :
    doc.lineStart n = (unlines (doc.rawLines.take n)).length := by
  have hsum : ∀ lines : List (List Char),
      lines.foldr (fun l n => l.length + 1 + n) 0 = (unlines lines).length := by
    intro lines
    induction lines with
    | nil => rfl
    | cons line lines ih =>
      rw [List.foldr_cons, ih, unlines_cons, List.length_append, List.length_cons]
      omega
  rw [lineStart, hsum]

/-! ### Positions of a text -/

namespace Position

theorem advanceOver_append (p : Position) (cs ds : List Char) :
    p.advanceOver (cs ++ ds) = (p.advanceOver cs).advanceOver ds :=
  List.foldl_append

/-- The line of a position is the number of line feeds before it. -/
theorem line_advanceOver (p : Position) (cs : List Char) :
    (p.advanceOver cs).line = p.line + cs.count '\n' := by
  induction cs generalizing p with
  | nil => rfl
  | cons c cs ih =>
    change ((p.advance c).advanceOver cs).line = _
    by_cases hc : c = '\n'
    · have hstep : (p.advance c).line = p.line + 1 := by rw [advance, if_pos hc]
      rw [ih, hstep, hc, List.count_cons_self]
      omega
    · have hstep : (p.advance c).line = p.line := by rw [advance, if_neg hc]
      rw [ih, hstep, List.count_cons_of_ne hc]

theorem advanceOver_line (p : Position) {line : List Char} (hline : '\n' ∉ line) :
    p.advanceOver line = ⟨p.line, p.character + line.length⟩ := by
  induction line generalizing p with
  | nil => rfl
  | cons c line ih =>
    rw [List.mem_cons, not_or] at hline
    have hstep : p.advance c = ⟨p.line, p.character + 1⟩ := if_neg (Ne.symm hline.1)
    change (p.advance c).advanceOver line = _
    rw [hstep, ih _ hline.2, List.length_cons, Nat.add_assoc, Nat.add_comm 1]

theorem advanceOver_unlines (n : Nat) {above : List (List Char)} (habove : ∀ l ∈ above, '\n' ∉ l) :
    (⟨n, 0⟩ : Position).advanceOver (unlines above) = ⟨n + above.length, 0⟩ := by
  induction above generalizing n with
  | nil => rfl
  | cons line above ih =>
    rw [unlines_cons, advanceOver_append, advanceOver_line _ (habove line List.mem_cons_self)]
    change (⟨n + 1, 0⟩ : Position).advanceOver (unlines above) = _
    rw [ih _ fun l hl => habove l (List.mem_cons_of_mem _ hl), List.length_cons]
    congr 1
    omega

theorem advanceOver_origin {above : List (List Char)} (habove : ∀ l ∈ above, '\n' ∉ l)
    {before : List Char} (hbefore : '\n' ∉ before) :
    origin.advanceOver (unlines above ++ before) = ⟨above.length, before.length⟩ := by
  rw [advanceOver_append]
  change ((⟨0, 0⟩ : Position).advanceOver (unlines above)).advanceOver before = _
  rw [advanceOver_unlines 0 habove, advanceOver_line _ hbefore]
  simp

end Position

/-! ### The carriage return at the end of a line -/

theorem isPrefix_dropReturn (line : List Char) : dropReturn line <+: line := by
  unfold dropReturn
  split
  · exact List.dropLast_prefix line
  · exact List.prefix_rfl

theorem dropReturn_eq_self {line : List Char} (hline : '\r' ∉ line) : dropReturn line = line :=
  if_neg fun h => hline (List.mem_of_getLast? h)

/-- Only the last character of a line can be dropped. -/
theorem dropReturn_append {before after : List Char}
    (h : after = [] → before.getLast? ≠ some '\r') :
    dropReturn (before ++ after) = before ++ dropReturn after := by
  by_cases hafter : after = []
  · subst hafter
    rw [List.append_nil, dropReturn, if_neg (h rfl)]
    exact (List.append_nil before).symm
  · unfold dropReturn
    rw [List.getLast?_append_of_ne_nil _ hafter]
    split
    · exact List.dropLast_append_of_ne_nil hafter
    · rfl

/-! ### Cuts -/

/-- A document is the lines `above` a position, the text `before` the position on
its line and the text `after` it, and the position is not behind the text of its
line. -/
structure Document.Splits (doc : Document) (above : List (List Char)) (before after : List Char) :
    Prop where
  chars : doc.chars = unlines above ++ (before ++ after)
  above_lines : ∀ l ∈ above, '\n' ∉ l
  before_line : '\n' ∉ before
  fits : before.length ≤ (dropReturn (before ++ (breakLines after).1)).length

namespace Document

namespace Splits

variable {doc : Document} {above : List (List Char)} {before after : List Char}
  (h : doc.Splits above before after)

include h

theorem rawLines :
    doc.rawLines = above ++ (before ++ (breakLines after).1) :: (breakLines after).2 := by
  rw [rawLines_unlines h.chars h.above_lines, breakLines_append h.before_line]

theorem line? :
    doc.line? above.length = some (dropReturn (before ++ (breakLines after).1)) := by
  rw [Document.line?, h.rawLines]
  simp

theorem positionAt :
    doc.positionAt (unlines above ++ before).length = ⟨above.length, before.length⟩ := by
  rw [Document.positionAt, h.chars, ← List.append_assoc, List.take_left]
  exact Position.advanceOver_origin h.above_lines h.before_line

theorem clamp : doc.clamp ⟨above.length, before.length⟩ = ⟨above.length, before.length⟩ := by
  simp only [Document.clamp, h.line?, Nat.min_eq_left h.fits]

theorem lineStart : doc.lineStart above.length = (unlines above).length := by
  rw [lineStart_eq, h.rawLines, List.take_left]

theorem offsetAt :
    doc.offsetAt ⟨above.length, before.length⟩ = (unlines above ++ before).length := by
  simp only [Document.offsetAt, h.line?, Nat.min_eq_left h.fits, h.lineStart, List.length_append]

theorem textBefore : doc.textBefore ⟨above.length, before.length⟩ = before := by
  rw [Document.textBefore, lineText, h.line?, Option.getD_some]
  -- what is left of the line and `before` are both prefixes of it
  have hprefix : before <+: dropReturn (before ++ (breakLines after).1) :=
    List.prefix_of_prefix_length_le (List.prefix_append _ _) (isPrefix_dropReturn _) h.fits
  exact (List.prefix_iff_eq_take.mp hprefix).symm

theorem textUntil : doc.textUntil ⟨above.length, before.length⟩ = unlines above ++ before := by
  rw [Document.textUntil, h.offsetAt, h.chars, ← List.append_assoc, List.take_left]

theorem textFrom : doc.textFrom ⟨above.length, before.length⟩ = after := by
  rw [Document.textFrom, h.offsetAt, h.chars, ← List.append_assoc, List.drop_left]

theorem textAfter :
    doc.textAfter ⟨above.length, before.length⟩ =
      (dropReturn (before ++ (breakLines after).1)).drop before.length := by
  rw [Document.textAfter, lineText, h.line?, Option.getD_some]

theorem linesAbove :
    doc.linesAbove above.length =
      ((above.drop (above.length - (Cursor.backwardLines - 1))).map dropReturn).reverse := by
  rw [Document.linesAbove, h.rawLines, List.take_left]

end Splits

/-- A place of the text is a cut if it is not behind the carriage return that ends its line. -/
theorem splits_of_chars {doc : Document} {above : List (List Char)} {before after : List Char}
    (hchars : doc.chars = unlines above ++ (before ++ after)) (habove : ∀ l ∈ above, '\n' ∉ l)
    (hbefore : '\n' ∉ before) (hlast : (breakLines after).1 = [] → before.getLast? ≠ some '\r') :
    doc.Splits above before after := by
  refine ⟨hchars, habove, hbefore, ?_⟩
  rw [dropReturn_append hlast, List.length_append]
  exact Nat.le_add_right _ _

/-- What follows a position on its line is read from the line up to any character that does not end
it. -/
theorem Splits.exists_textAfter {doc : Document} {above : List (List Char)}
    {before front rest : List Char} {c : Char} (h : doc.Splits above before (front ++ c :: rest))
    (hfront : '\n' ∉ front) (hfeed : c ≠ '\n') (hreturn : c ≠ '\r') :
    ∃ tail, doc.textAfter ⟨above.length, before.length⟩ = front ++ c :: tail := by
  have hline : '\n' ∉ front ++ [c] := by simp [hfront, Ne.symm hfeed]
  have hlast : (before ++ (front ++ [c])).getLast? ≠ some '\r' := by simp [hreturn]
  refine ⟨dropReturn (breakLines rest).1, ?_⟩
  rw [h.textAfter, List.append_cons front, breakLines_append hline, ← List.append_assoc before,
    dropReturn_append fun _ => hlast, List.append_assoc before, List.drop_left,
    List.append_assoc front]
  rfl

theorem exists_splits_of_append {doc : Document} {front back : List Char}
    (hchars : doc.chars = front ++ back)
    (hlast : (breakLines back).1 = [] → front.getLast? ≠ some '\r') :
    ∃ above before, front = unlines above ++ before ∧ doc.Splits above before back := by
  obtain ⟨above, before, rfl, habove, hbefore⟩ := exists_unlines front
  rw [List.append_assoc] at hchars
  refine ⟨above, before, rfl, splits_of_chars hchars habove hbefore fun hback hreturn => ?_⟩
  have hne : before ≠ [] := by
    rintro rfl
    cases hreturn
  apply hlast hback
  rw [List.getLast?_append_of_ne_nil _ hne, hreturn]

/-- A place of the text is the place of its position, unless it is behind the carriage return that
ends a line. -/
theorem offsetAt_positionAt {doc : Document} {front back : List Char}
    (hchars : doc.chars = front ++ back)
    (hlast : (breakLines back).1 = [] → front.getLast? ≠ some '\r') :
    doc.offsetAt (doc.positionAt front.length) = front.length := by
  obtain ⟨above, before, rfl, hsplits⟩ := exists_splits_of_append hchars hlast
  rw [hsplits.positionAt, hsplits.offsetAt]

theorem offsetAt_positionAt_front {doc : Document} {front back : List Char} {c : Char}
    (hchars : doc.chars = front ++ c :: back) (hc : c ≠ '\n') :
    doc.offsetAt (doc.positionAt front.length) = front.length := by
  refine offsetAt_positionAt hchars fun hnil => ?_
  have hbreak := breakLines_append (show '\n' ∉ [c] by simpa using Ne.symm hc) back
  rw [List.singleton_append] at hbreak
  rw [hbreak] at hnil
  cases hnil

theorem offsetAt_positionAt_behind {doc : Document} {front back : List Char} {c : Char}
    (hchars : doc.chars = front ++ c :: back) (hc : c ≠ '\r') :
    doc.offsetAt (doc.positionAt (front.length + 1)) = front.length + 1 := by
  have hsplit : doc.chars = (front ++ [c]) ++ back := by rw [hchars, ← List.append_cons]
  have h := offsetAt_positionAt hsplit fun _ => by simp [hc]
  rwa [List.length_append] at h

theorem exists_line {doc : Document} {n : Nat} {line : List Char}
    (hline : doc.rawLines[n]? = some line) :
    ∃ above tail, above.length = n ∧ doc.chars = unlines above ++ (line ++ tail) ∧
      (∀ l ∈ above, '\n' ∉ l) ∧ '\n' ∉ line ∧ (breakLines tail).1 = [] := by
  obtain ⟨lines, last, hchars, hlines, hlast⟩ := exists_unlines doc.chars
  rw [rawLines_eq hchars hlines hlast] at hline
  by_cases hn : n < lines.length
  · -- a complete line: its line feed follows
    rw [List.getElem?_append_left hn, List.getElem?_eq_getElem hn, Option.some.injEq] at hline
    have hsplit : lines = lines.take n ++ line :: lines.drop (n + 1) := by
      rw [← hline, List.getElem_cons_drop, List.take_append_drop]
    refine ⟨lines.take n, '\n' :: (unlines (lines.drop (n + 1)) ++ last), ?_, ?_, ?_, ?_, rfl⟩
    · rw [List.length_take, Nat.min_eq_left (Nat.le_of_lt hn)]
    · rw [hchars, hsplit, unlines_append, unlines_cons, ← hsplit]
      simp
    · exact fun l hl => hlines l (List.mem_of_mem_take hl)
    · exact hlines line (hline ▸ List.getElem_mem hn)
  · -- the last line: nothing follows
    rw [List.getElem?_append_right (by omega), List.getElem?_singleton] at hline
    split at hline
    · next hzero =>
      cases hline
      exact ⟨lines, [], by omega, by rw [hchars, List.append_nil], hlines, hlast, rfl⟩
    · cases hline

theorem exists_line?_of_lt {doc : Document} {n : Nat} (hn : n < doc.lineCount) :
    ∃ line, doc.line? n = some line :=
  ⟨_, by rw [line?, List.getElem?_eq_getElem hn, Option.map_some]⟩

theorem lineCount_eq (doc : Document) : doc.lineCount = doc.chars.count '\n' + 1 := by
  obtain ⟨lines, last, hchars, hlines, hlast⟩ := exists_unlines doc.chars
  rw [lineCount, rawLines_eq hchars hlines hlast, hchars, List.count_append, count_unlines hlines,
    List.count_eq_zero.mpr hlast, List.length_append]
  rfl

theorem textUntil_append_textFrom (doc : Document) (p : Position) :
    doc.chars = doc.textUntil p ++ doc.textFrom p :=
  (List.take_append_drop _ _).symm

theorem offsetAt_clamp {doc : Document} {p : Position} {line : List Char}
    (hline : doc.line? p.line = some line) : doc.offsetAt (doc.clamp p) = doc.offsetAt p := by
  simp only [clamp, offsetAt, hline, Nat.min_assoc, Nat.min_self]

theorem clamp_clamp {doc : Document} {p : Position} {line : List Char}
    (hline : doc.line? p.line = some line) : doc.clamp (doc.clamp p) = doc.clamp p := by
  simp only [clamp, hline, Nat.min_assoc, Nat.min_self]

theorem textBefore_clamp {doc : Document} {p : Position} {line : List Char}
    (hline : doc.line? p.line = some line) : doc.textBefore (doc.clamp p) = doc.textBefore p := by
  simp only [textBefore, clamp, lineText, hline, Option.getD_some]
  rw [List.take_eq_take_iff]
  omega

theorem textAfter_clamp {doc : Document} {p : Position} {line : List Char}
    (hline : doc.line? p.line = some line) : doc.textAfter (doc.clamp p) = doc.textAfter p := by
  simp only [textAfter, clamp, lineText, hline, Option.getD_some]
  by_cases hle : p.character ≤ line.length
  · rw [Nat.min_eq_left hle]
  · rw [List.drop_of_length_le (by omega), List.drop_of_length_le (by omega)]

/-- **Every position on a line of the document stands at a cut**, after it has been moved onto
existing text. -/
theorem exists_splits {doc : Document} {p : Position} {line : List Char}
    (hline : doc.line? p.line = some line) :
    ∃ above before after, doc.Splits above before after ∧
      doc.clamp p = ⟨above.length, before.length⟩ := by
  obtain ⟨raw, hraw, rfl⟩ := Option.map_eq_some_iff.mp hline
  obtain ⟨above, tail, hnumber, hchars, habove, hnewline, htail⟩ := exists_line hraw
  set n := min p.character (dropReturn raw).length
  have hle : n ≤ (dropReturn raw).length := Nat.min_le_right _ _
  have hlength : (raw.take n).length = n := by
    rw [List.length_take, Nat.min_eq_left (Nat.le_trans hle (isPrefix_dropReturn raw).length_le)]
  refine ⟨above, raw.take n, raw.drop n ++ tail, ⟨?_, habove, ?_, ?_⟩, ?_⟩
  · rw [hchars, ← List.append_assoc (raw.take n), List.take_append_drop]
  · exact fun h => hnewline (List.mem_of_mem_take h)
  · rw [breakLines_append fun h => hnewline (List.mem_of_mem_drop h), htail, List.append_nil,
      List.take_append_drop, hlength]
    exact hle
  · rw [clamp, hline, hnumber, hlength]

/-- Every position is moved onto a line of the document. -/
theorem exists_line?_clamp (doc : Document) (p : Position) :
    ∃ line, doc.line? (doc.clamp p).line = some line := by
  cases hline : doc.line? p.line with
  | some line => exact ⟨line, by simp only [clamp, hline]⟩
  | none =>
    obtain ⟨lines, last, hchars, hlines, hlast⟩ := exists_unlines doc.chars
    have hclamp : doc.clamp p = ⟨lines.length, last.length⟩ := by
      rw [clamp, hline, endPosition, hchars, Position.advanceOver_origin hlines hlast]
    refine ⟨dropReturn last, ?_⟩
    rw [hclamp, line?, rawLines_eq hchars hlines hlast]
    simp

theorem textUntil_clamp {doc : Document} {p : Position} {line : List Char}
    (hline : doc.line? p.line = some line) : doc.textUntil (doc.clamp p) = doc.textUntil p := by
  rw [textUntil, offsetAt_clamp hline, textUntil]

/-- The text before a position is the lines above it and the text before it on its line. -/
theorem textUntil_eq_unlines {doc : Document} {p : Position} (hp : p.line < doc.lineCount) :
    doc.textUntil p = unlines (doc.rawLines.take p.line) ++ doc.textBefore p := by
  obtain ⟨line, hline⟩ := exists_line?_of_lt hp
  obtain ⟨above, before, after, hsplits, hclamp⟩ := exists_splits hline
  have hnumber : p.line = above.length := by
    rw [clamp, hline] at hclamp
    exact congrArg Position.line hclamp
  rw [← textUntil_clamp hline, ← textBefore_clamp hline, hclamp, hsplits.textUntil,
    hsplits.textBefore, hnumber, hsplits.rawLines, List.take_left]

/-- No position is behind the end of the document. -/
theorem length_textUntil (doc : Document) (p : Position) :
    (doc.textUntil p).length = doc.offsetAt p := by
  cases hline : doc.line? p.line with
  | none =>
    rw [textUntil, offsetAt, hline, List.take_length]
  | some line =>
    obtain ⟨above, before, after, hsplits, hclamp⟩ := exists_splits hline
    rw [← textUntil_clamp hline, ← offsetAt_clamp hline, hclamp, hsplits.textUntil,
      hsplits.offsetAt]

/-- A document with a text inserted behind `place` characters. -/
def insertAt (doc : Document) (place : Nat) (text : List Char) : Document :=
  { doc with chars := doc.chars.take place ++ (text ++ doc.chars.drop place) }

theorem chars_insertAt {doc : Document} {front back : List Char}
    (hchars : doc.chars = front ++ back) (text : List Char) :
    (doc.insertAt front.length text).chars = front ++ (text ++ back) := by
  rw [insertAt, hchars, List.take_left, List.drop_left]

end Document

end MarkupAssist
