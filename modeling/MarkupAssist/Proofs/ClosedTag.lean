import MarkupAssist.Proofs.TagGrammar
import MarkupAssist.Proofs.TagWalk

/-!
# Closed tags that look open

`Document.openTag?` judges each line by its shape, so it can miss that a tag was
closed. Two places show it to the walk: the line of the tag itself, and the cursor
line if the tag stands further up. `ClosingSeen` says what the walk has to find
there, for the body of a tag and the content between its `>` and the cursor.

* `isTagTail_iff`, `endsAfterClose_iff`: the shapes of lines that stop the walk, as a
  grammar.
* `closesTag_firstLine`: what the line of a tag shows.
* `Document.Splits.exists_of_openTag?`: a tag that the walk finds has not been seen
  to be closed.
* `Document.Splits.openTag?_of_unclosed`: a tag that has not been seen to be closed
  is found.

`walk_closingSeen` puts them together, for the grammar of tags that occurrences
are found by. `walk_in_content` shows closed tags that the walk takes for open.
-/

namespace MarkupAssist

open Text Cursor Markup

/-! ### The first and the last line of a text -/

/-- The first line of a text, as far as the text goes. -/
def firstLine (cs : List Char) : List Char :=
  if '\n' ∈ cs then dropReturn (breakLines cs).1 else cs

/-- The text behind the last line feed. -/
def lastLine (cs : List Char) : List Char :=
  takeEndWhile (· != '\n') cs

theorem firstLine_eq_self {cs : List Char} (hcs : '\n' ∉ cs) : firstLine cs = cs :=
  if_neg hcs

theorem firstLine_append {line : List Char} (hline : '\n' ∉ line) (cs : List Char) :
    firstLine (line ++ '\n' :: cs) = dropReturn line := by
  rw [firstLine, if_pos (by simp), breakLines_append hline, breakLines_newline, List.append_nil]

/-- A character that ends no line is no part of a line break. -/
theorem firstLine_append_cons {front : List Char} (hfront : '\n' ∉ front) {c : Char}
    (hfeed : c ≠ '\n') (hreturn : c ≠ '\r') (cs : List Char) :
    firstLine (front ++ c :: cs) = front ++ c :: firstLine cs := by
  have hfront' : '\n' ∉ front ++ [c] := by simp [hfront, Ne.symm hfeed]
  rw [List.append_cons, List.append_cons front c (firstLine cs)]
  by_cases hcs : '\n' ∈ cs
  · rw [firstLine, if_pos (List.mem_append_right _ hcs), firstLine, if_pos hcs,
      breakLines_append hfront', dropReturn_append fun _ => by simp [hreturn]]
  · have hall : '\n' ∉ front ++ [c] ++ cs := by
      rw [List.mem_append, not_or]
      exact ⟨hfront', hcs⟩
    rw [firstLine_eq_self hall, firstLine_eq_self hcs]

theorem lastLine_append {last : List Char} (hlast : '\n' ∉ last) (above : List (List Char)) :
    lastLine (unlines above ++ last) = last := by
  refine takeEndWhile_append (fun c hc => ?_) ?_
  · simpa using fun heq : c = '\n' => hlast (heq ▸ hc)
  · cases above with
    | nil => rfl
    | cons line above =>
      rw [getLast?_unlines (List.cons_ne_nil _ _)]
      rfl

/-- The lines of a text are determined by it. -/
theorem unlines_unique {above above' : List (List Char)} {last last' : List Char}
    (h : unlines above ++ last = unlines above' ++ last') (habove : ∀ l ∈ above, '\n' ∉ l)
    (hlast : '\n' ∉ last) (habove' : ∀ l ∈ above', '\n' ∉ l) (hlast' : '\n' ∉ last') :
    above = above' ∧ last = last' := by
  have hlines : (⟨unlines above ++ last, ""⟩ : Document).rawLines = above ++ [last] :=
    Document.rawLines_eq rfl habove hlast
  rw [Document.rawLines_eq h habove' hlast'] at hlines
  obtain ⟨rfl, hsame⟩ := List.append_inj' hlines rfl
  exact ⟨rfl, (List.cons.inj hsame).1.symm⟩

/-! ### Lines that stop the walk -/

namespace Cursor

/-- What may follow a closed tag up to the cursor or the end of the line: words and blanks, then
perhaps a `<` and blanks, then a run of name characters. -/
def TagTail (cs : List Char) : Prop :=
  ∃ words mark name, cs = words ++ (mark ++ name) ∧
    (∀ c ∈ words, (isBlank c || isWord c) = true) ∧
    (mark = [] ∨ ∃ blanks, mark = '<' :: blanks ∧ ∀ c ∈ blanks, isBlank c = true) ∧
    ∀ c ∈ name, isNameChar c = true

theorem isTagTail_of_tagTail {cs : List Char} (h : TagTail cs) : isTagTail cs = true := by
  obtain ⟨words, mark, name, rfl, hwords, hmark, hname⟩ := h
  rw [isTagTail, List.dropWhile_append_of_pos hwords]
  rcases hmark with rfl | ⟨blanks, rfl, hblanks⟩
  · rw [List.nil_append]
    have hrest : ∀ c ∈ name.dropWhile fun c => isBlank c || isWord c, isNameChar c = true :=
      fun c hc => hname c ((List.dropWhile_sublist _).subset hc)
    split
    · next rest heq =>
      -- the `<` is no name character
      exact absurd (hrest '<' (heq ▸ List.mem_cons_self)) (by decide)
    · exact List.all_eq_true.mpr hrest
  · have hopen : ('<' :: blanks ++ name).dropWhile (fun c => isBlank c || isWord c) =
        '<' :: (blanks ++ name) := by
      rw [List.cons_append, List.dropWhile_cons_of_neg (by decide)]
    rw [hopen]
    change ((blanks ++ name).dropWhile isBlank).all isNameChar = true
    rw [List.dropWhile_append_of_pos hblanks, List.all_eq_true]
    exact fun c hc => hname c ((List.dropWhile_sublist _).subset hc)

theorem isTagTail_iff {cs : List Char} : isTagTail cs = true ↔ TagTail cs := by
  refine ⟨fun h => ?_, isTagTail_of_tagTail⟩
  have hwords : ∀ c ∈ cs.takeWhile fun c => isBlank c || isWord c,
      (isBlank c || isWord c) = true := by
    intro c hc
    have hc' := List.mem_takeWhile_imp hc
    exact hc'
  rw [isTagTail] at h
  split at h
  · next rest heq =>
    refine ⟨_, '<' :: rest.takeWhile isBlank, rest.dropWhile isBlank, ?_, hwords,
      Or.inr ⟨_, rfl, fun c hc => List.mem_takeWhile_imp hc⟩, List.all_eq_true.mp h⟩
    rw [List.cons_append, List.takeWhile_append_dropWhile, ← heq, List.takeWhile_append_dropWhile]
  · refine ⟨_, [], _, ?_, hwords, Or.inl rfl, List.all_eq_true.mp h⟩
    rw [List.nil_append, List.takeWhile_append_dropWhile]

/-- A line without a `<` and with a `>` that is not its first character. Behind its last `>` it has
no slash. -/
def CloseLine (cs : List Char) : Prop :=
  ∃ front back, cs = front ++ '>' :: back ∧ front ≠ [] ∧ '<' ∉ front ∧
    ∀ c ∈ back, c ≠ '<' ∧ c ≠ '>' ∧ c ≠ '/'

theorem endsAfterClose_iff {cs : List Char} : endsAfterClose cs = true ↔ CloseLine cs := by
  constructor
  · intro h
    have hmem : '>' ∈ cs := by
      by_contra hnone
      rw [endsAfterClose_of_notMem hnone] at h
      cases h
    have hlast : ∃ front c back, cs = front ++ c :: back ∧ (c == '>') = true ∧
        ∀ d ∈ back, (d == '>') = false := exists_last ⟨'>', hmem, rfl⟩
    obtain ⟨front, c, back, rfl, hc, hback⟩ := hlast
    obtain rfl : c = '>' := beq_iff_eq.mp hc
    have hcut : splitLast? (· == '>') (front ++ '>' :: back) = some (front, '>' :: back) :=
      splitLast?_append_cons (by decide) hback
    rw [endsAfterClose, hcut, Bool.and_eq_true, Bool.and_eq_true, Bool.not_eq_true',
      List.isEmpty_eq_false_iff, List.all_eq_true, List.all_eq_true] at h
    obtain ⟨hopen, hne, hslash⟩ := h
    have hopen' : ∀ c ∈ front ++ '>' :: back, c ≠ '<' := fun c hc => bne_iff_ne.mp (hopen c hc)
    refine ⟨front, back, rfl, hne, fun hmem => ?_, fun c hc => ⟨?_, ?_, ?_⟩⟩
    · exact hopen' '<' (List.mem_append_left _ hmem) rfl
    · exact hopen' c (List.mem_append_right _ (List.mem_cons_of_mem _ hc))
    · exact beq_eq_false_iff_ne.mp (hback c hc)
    · exact bne_iff_ne.mp (hslash c (List.mem_cons_of_mem _ hc))
  · rintro ⟨front, back, rfl, hne, hfront, hback⟩
    have hcut : splitLast? (· == '>') (front ++ '>' :: back) = some (front, '>' :: back) := by
      refine splitLast?_append_cons (by decide) fun c hc => ?_
      simpa using (hback c hc).2.1
    have hopen : (front ++ '>' :: back).all (· != '<') = true := by
      rw [List.all_eq_true]
      intro c hc
      rw [bne_iff_ne]
      rcases List.mem_append.mp hc with hc | hc
      · exact fun heq => hfront (heq ▸ hc)
      rcases List.mem_cons.mp hc with rfl | hc
      · decide
      · exact (hback c hc).1
    have hslash : ('>' :: back).all (· != '/') = true := by
      rw [List.all_cons, Bool.and_eq_true, List.all_eq_true]
      exact ⟨rfl, fun c hc => bne_iff_ne.mpr (hback c hc).2.2⟩
    rw [endsAfterClose, hopen, hcut]
    simp only [hslash, Bool.true_and, Bool.and_true]
    simpa using hne

/-- **The walk can see that a tag is closed** by its body and the content between its `>` and the
cursor. -/
inductive ClosingSeen (body content : List Char) : Prop
  /-- The tag is closed on its own line, has no further bracket, and is followed there by a tail
  only. -/
  | onTagLine (hquiet : Quiet body) (hline : '\n' ∉ body) (htail : TagTail (firstLine content))
  /-- The cursor stands on a later line, and a `>` closes something on that line. -/
  | onCursorLine (hbelow : '\n' ∈ body ++ content)
      (hclose : CloseLine (lastLine (body ++ '>' :: content)))

/-- What the line of a tag without further brackets shows. -/
theorem closesTag_firstLine {tag body : List Char} (htag : NameText tag) (hbody : Quiet body)
    (content : List Char) :
    closesTag (tag ++ firstLine (body ++ '>' :: content)) = true ↔
      '\n' ∉ body ∧ TagTail (firstLine content) := by
  by_cases hline : '\n' ∈ body
  · -- the first line ends inside the body, in front of the `>`
    obtain ⟨lines, last, rfl, hlines, hlast⟩ := exists_unlines body
    cases lines with
    | nil => exact absurd hline hlast
    | cons line lines =>
      have hquiet : Quiet (dropReturn line) := by
        refine hbody.of_subset fun c hc => List.mem_append_left _ ?_
        exact subset_unlines List.mem_cons_self ((isPrefix_dropReturn line).subset hc)
      have hfirst : firstLine (unlines (line :: lines) ++ last ++ '>' :: content) =
          dropReturn line := by
        rw [unlines_cons, List.append_assoc, List.append_assoc, List.cons_append]
        exact firstLine_append (hlines line List.mem_cons_self) _
      rw [hfirst, closesTag_of_notMem (end_notMem_tag htag hquiet)]
      simp [unlines_cons]
  · rw [firstLine_append_cons hline (by decide) (by decide), closesTag_closed htag hbody,
      isTagTail_iff]
    exact ⟨fun h => ⟨hline, h⟩, fun h => h.2⟩

/-- If the walk stops neither on the line of a tag nor on the cursor line, it has not seen that the
tag is closed. -/
theorem not_closingSeen {tag body content : List Char} (htag : NameText tag)
    (hline : closesTag (tag ++ firstLine (body ++ '>' :: content)) = false)
    (hclose : '\n' ∈ body ++ '>' :: content →
      endsAfterClose (lastLine (body ++ '>' :: content)) = false) :
    ¬ ClosingSeen body content := by
  intro hseen
  cases hseen with
  | onTagLine hquiet hbody htail =>
    rw [(closesTag_firstLine htag hquiet content).mpr ⟨hbody, htail⟩] at hline
    cases hline
  | onCursorLine hbelow hlast =>
    have hmem : '\n' ∈ body ++ '>' :: content := by
      rw [List.mem_append] at hbelow ⊢
      exact hbelow.imp_right (List.mem_cons_of_mem _)
    rw [endsAfterClose_iff.mpr hlast] at hclose
    cases hclose hmem

end Cursor

/-! ### What the walk finds -/

theorem endsName_false_iff {cs : List Char} : EndsName false cs ↔ cs.head?.any isBlank = true := by
  cases cs with
  | nil => simp [EndsName]
  | cons c cs => rfl

/-- At the end of a line the line break ends a name. -/
theorem endsName_dropReturn_iff {cs : List Char} (rest : List Char) :
    EndsName true (dropReturn cs) ↔ (cs ++ '\n' :: rest).head?.any isBlank = true := by
  cases cs with
  | nil => exact ⟨fun _ => rfl, fun _ => rfl⟩
  | cons c cs =>
    by_cases hreturn : (c :: cs).getLast? = some '\r'
    · rw [dropReturn, if_pos hreturn]
      cases cs with
      | nil =>
        obtain rfl : c = '\r' := Option.some.inj hreturn
        exact ⟨fun _ => rfl, fun _ => rfl⟩
      | cons d cs => rfl
    · rw [dropReturn, if_neg hreturn]
      rfl

namespace Document.Splits

variable {doc : Document} {above : List (List Char)} {before after : List Char}
  (h : doc.Splits above before after)

include h

/-- **A tag that the walk finds stands in front of the cursor, and no line shows that it is
closed.** -/
theorem exists_of_openTag? {token : TagToken}
    (hfound : doc.openTag? ⟨above.length, before.length⟩ = some token) :
    ∃ pre name inner, token = ⟨String.ofList name, pre.length⟩ ∧
      unlines above ++ before = pre ++ '<' :: (name ++ inner) ∧ NameText name ∧
      inner.head?.any isBlank = true ∧ closesTag (name ++ firstLine inner) = false ∧
      ('\n' ∈ inner → endsAfterClose (lastLine inner) = false) := by
  rw [h.openTag?_eq] at hfound
  split at hfound
  · cases hfound
  next hstops =>
  rw [Bool.not_eq_true, stopsAtCursor, Bool.or_eq_false_iff, Bool.or_eq_false_iff] at hstops
  obtain ⟨⟨hpass, hclose⟩, -⟩ := hstops
  rcases Option.or_eq_some_iff.mp hfound with hline | ⟨-, hwalk⟩
  · -- on the cursor line
    obtain ⟨i, name, hmem, rfl⟩ := exists_of_tagToken? hline
    obtain ⟨front, inner, rfl, rfl, hname, hends⟩ := exists_of_mem_openTags hmem
    have hinner : '\n' ∉ inner := fun hmem => h.before_line (by simp [hmem])
    have hchars : doc.chars = unlines above ++ (front ++ '<' :: (name ++ inner ++ after)) := by
      rw [h.chars, List.append_assoc front, List.cons_append]
    have hfront : '\n' ∉ front := fun hmem => h.before_line (List.mem_append_left _ hmem)
    refine ⟨unlines above ++ front, name, inner, ?_, (List.append_assoc ..).symm, hname,
      endsName_false_iff.mp hends, ?_, fun hmem => absurd hmem hinner⟩
    · rw [(splits_front hchars h.above_lines hfront).offsetAt]
    · rw [firstLine_eq_self hinner, ← Bool.not_eq_true]
      intro hcloses
      rw [endsAfterTag_of_closesTag hcloses] at hpass
      cases hpass
  · -- on a line above it
    obtain ⟨passed, line, rest, hlines, -, hpass', htoken⟩ := exists_of_openTagAbove? hwalk
    obtain ⟨upper, raw, lower, rfl, rfl, rfl, -⟩ := exists_of_reverse_drop hlines
    obtain ⟨i, name, hmem, rfl⟩ := exists_of_tagToken? htoken
    obtain ⟨front, visible, hvisible, rfl, hname, hends⟩ := exists_of_mem_openTags hmem
    -- the line of the tag goes on with its carriage return
    obtain ⟨cs, rfl, rfl⟩ := exists_of_dropReturn_tag hname hvisible
    have hraw := h.above_lines _ (List.mem_append_right upper List.mem_cons_self)
    have hcs : '\n' ∉ cs := fun hmem => hraw (by simp [hmem])
    have hnumber : (upper ++ (front ++ '<' :: (name ++ cs)) :: lower).length - 1 -
        (lower.map dropReturn).reverse.length = upper.length := by
      rw [List.length_append, List.length_cons, List.length_reverse, List.length_map]
      omega
    have hchars : doc.chars = unlines upper ++
        (front ++ '<' :: (name ++ cs ++ '\n' :: (unlines lower ++ (before ++ after)))) := by
      rw [h.chars, unlines_append, unlines_cons]
      simp
    have hupper : ∀ l ∈ upper, '\n' ∉ l := fun l hl => h.above_lines l (List.mem_append_left _ hl)
    have hfront : '\n' ∉ front := fun hmem => hraw (List.mem_append_left _ hmem)
    refine ⟨unlines upper ++ front, name, cs ++ '\n' :: (unlines lower ++ before), ?_, ?_, hname,
      (endsName_dropReturn_iff _).mp hends, ?_, fun _ => ?_⟩
    · rw [hnumber, (splits_front hchars hupper hfront).offsetAt]
    · rw [unlines_append, unlines_cons]
      simp
    · rw [firstLine_append hcs, ← Bool.not_eq_true]
      intro hcloses
      rw [dropReturn_tag hname, endsAfterTag_of_closesTag hcloses] at hpass'
      cases hpass'
    · have hlast := lastLine_append h.before_line (cs :: lower)
      rw [unlines_cons, List.append_assoc, List.cons_append] at hlast
      rw [hlast, hclose]

/-- **A tag is found if no line shows that it is closed**, and nothing else on its line stops the
walk. -/
theorem openTag?_of_unclosed {pre name inner : List Char}
    (htext : unlines above ++ before = pre ++ '<' :: (name ++ inner)) (hname : NameText name)
    (hhead : inner.head?.any isBlank = true) (hpre : '>' ∉ lastLine pre) (hinner : '<' ∉ inner)
    (hcount : inner.count '\n' < backwardLines)
    (hline : closesTag (name ++ firstLine inner) = false)
    (hclose : '\n' ∈ inner → endsAfterClose (lastLine inner) = false) :
    doc.openTag? ⟨above.length, before.length⟩ = some ⟨String.ofList name, pre.length⟩ := by
  obtain ⟨above', before', htag, htext', habove', hbefore'⟩ :=
    exists_tagLines pre hname.chars inner
  obtain ⟨rfl, rfl⟩ := unlines_unique (htext.trans htext') h.above_lines h.before_line habove'
    hbefore'
  -- the lines in front of the cursor are known, so what is left is where the tag stands in them
  cases htag with
  | @sameLine _ front _ _ hcs =>
    have hfront : '\n' ∉ front := fun hmem => h.before_line (List.mem_append_left _ hmem)
    rw [lastLine_append hfront] at hpre
    rw [firstLine_eq_self hcs] at hline
    exact h.openTag?_onLine hpre hname (endsName_false_iff.mpr hhead) hinner hline
  | @lineAbove upper front _ first below last hlines =>
    have hfirst : '\n' ∉ first := hlines first List.mem_cons_self
    have hraw := h.above_lines _ (List.mem_append_right upper List.mem_cons_self)
    have hsplit : unlines (first :: below) ++ before =
        first ++ '\n' :: (unlines below ++ before) := by
      rw [unlines_cons, List.append_assoc, List.cons_append]
    rw [lastLine_append fun hmem => hraw (List.mem_append_left _ hmem)] at hpre
    rw [hsplit, firstLine_append hfirst] at hline
    rw [hsplit] at hhead
    rw [lastLine_append h.before_line] at hclose
    have hnotMem : ∀ l, l ∈ first :: below → '<' ∉ l := fun l hl hmem =>
      hinner (List.mem_append_left _ (subset_unlines hl hmem))
    have hends := (endsName_dropReturn_iff _).mpr hhead
    refine h.openTag?_fromAbove hpre hname hends (hnotMem first List.mem_cons_self) hline
      (fun l hl => hnotMem l (List.mem_cons_of_mem _ hl)) ?_
      (fun hmem => hinner (List.mem_append_right _ hmem)) (hclose (by simp [hsplit]))
    rw [List.count_append, count_unlines hlines, List.length_cons] at hcount
    omega

end Document.Splits

/-- Every position stands at a cut for the walk, also one past the last line. -/
theorem Document.exists_splits_openTag? (doc : Document) (p : Position) :
    ∃ above before after, doc.Splits above before after ∧
      doc.textUntil (doc.clamp p) = unlines above ++ before ∧
      doc.openTag? p = doc.openTag? ⟨above.length, before.length⟩ := by
  obtain ⟨above, before, after, hstands⟩ := doc.exists_standsAt_clamp p
  exact ⟨above, before, after, hstands.splits, hstands.textUntil, hstands.openTag?_eq⟩

/-! ### Closed tags -/

/-- **Which closed tags are taken for open.** A tag that is found starts at its offset with its name
and a blank. If it is closed in front of the cursor, then in no way that the walk can see. In the
other direction, take a tag without further brackets and a content without a `<`, at most nine line
breaks in both, and no `>` in front of the tag on its line: it is found exactly if the walk cannot
see that it is closed. -/
theorem walk_closingSeen (doc : Document) (p : Position) :
    (∀ token, doc.openTag? p = some token →
      ∃ inner, (doc.textUntil (doc.clamp p)).drop token.offset =
          '<' :: (token.text.toList ++ inner) ∧
        inner.head?.any isBlank = true ∧
        ∀ body content, body? none inner = some (body ++ ['>'], content) →
          ¬ ClosingSeen body content) ∧
    ∀ pre name body content,
      doc.textUntil (doc.clamp p) = pre ++ '<' :: (name ++ (body ++ '>' :: content)) →
      NameText name → body.head?.any isBlank = true → Quiet body → '<' ∉ content →
      '>' ∉ lastLine pre → (body ++ content).count '\n' < backwardLines →
      (doc.openTag? p = some ⟨String.ofList name, pre.length⟩ ↔ ¬ ClosingSeen body content) := by
  obtain ⟨above, before, after, hsplits, huntil, hopen⟩ := doc.exists_splits_openTag? p
  rw [huntil, hopen]
  constructor
  · intro token hfound
    obtain ⟨pre, name, inner, rfl, htext, hname, hhead, hline, hclose⟩ :=
      hsplits.exists_of_openTag? hfound
    refine ⟨inner, ?_, hhead, fun body content hbody => ?_⟩
    · rw [htext, List.drop_left, String.toList_ofList]
    · obtain ⟨ts, -, hflat, rfl⟩ := body?_eq_some_iff.mp hbody
      obtain rfl := List.append_cancel_right hflat
      exact not_closingSeen hname hline hclose
  · intro pre name body content htext hname hhead hquiet hcontent hpre hcount
    constructor
    · intro hfound
      obtain ⟨pre', name', inner, htoken, htext', -, -, hline, hclose⟩ :=
        hsplits.exists_of_openTag? hfound
      -- at the same place there is the same tag
      obtain ⟨hsame, hlength⟩ := TagToken.mk.inj htoken
      obtain rfl := String.ofList_injective hsame
      obtain ⟨rfl, hrest⟩ := List.append_inj (htext.symm.trans htext') hlength
      obtain rfl := List.append_cancel_left (List.cons.inj hrest).2
      exact not_closingSeen hname hline hclose
    · -- each of the two tests of the walk would be one of the two ways to see the end
      intro hunseen
      refine hsplits.openTag?_of_unclosed htext hname ?_ hpre ?_ ?_ ?_ fun hbelow => ?_
      · cases body with
        | nil => cases hhead
        | cons c body => exact hhead
      · simp [hquiet.1, hcontent]
      · rwa [List.count_append, List.count_cons_of_ne (by decide), ← List.count_append]
      · rw [← Bool.not_eq_true, closesTag_firstLine hname hquiet]
        exact fun hseen => hunseen (.onTagLine hquiet hseen.1 hseen.2)
      · rw [← Bool.not_eq_true, endsAfterClose_iff]
        exact fun hseen => hunseen (.onCursorLine (by simpa using hbelow) hseen)

/-- A tag on two lines, with a word behind its `>`. -/
def closedBelow : Document :=
  ⟨"<f-row\n  wide>Hello ".toList, "vue"⟩

/-- A comma hides the end of a tag that stands on the cursor line. -/
def commaBehind : Document :=
  ⟨"<f-row wide>Hello, ".toList, "vue"⟩

/-- The end of a tag on two lines is seen, and that of a tag with a comma behind it is not. -/
theorem walk_closedBelow :
    closedBelow.openTag? ⟨1, 13⟩ ≠ some ⟨"f-row", 0⟩ ∧
      commaBehind.openTag? ⟨0, 19⟩ = some ⟨"f-row", 0⟩ := by
  have hname : NameText "f-row".toList := ⟨by decide, List.all_eq_true.mp rfl⟩
  constructor
  · have htext : closedBelow.textUntil (closedBelow.clamp ⟨1, 13⟩) =
        [] ++ '<' :: ("f-row".toList ++ ("\n  wide".toList ++ '>' :: "Hello ".toList)) := by
      decide +kernel
    have hseen : ClosingSeen "\n  wide".toList "Hello ".toList := by
      refine .onCursorLine (by decide) ?_
      rw [← endsAfterClose_iff]
      decide +kernel
    have hiff := (walk_closingSeen closedBelow ⟨1, 13⟩).2 [] "f-row".toList "\n  wide".toList
      "Hello ".toList htext hname rfl ⟨by decide, by decide⟩ (by decide) (by decide) (by decide)
    exact fun hfound => hiff.mp hfound hseen
  · have htext : commaBehind.textUntil (commaBehind.clamp ⟨0, 19⟩) =
        [] ++ '<' :: ("f-row".toList ++ (" wide".toList ++ '>' :: "Hello, ".toList)) := by
      decide +kernel
    have hunseen : ¬ ClosingSeen " wide".toList "Hello, ".toList := by
      intro hseen
      cases hseen with
      | onTagLine _ _ htail =>
        rw [← isTagTail_iff] at htail
        exact absurd htail (by decide +kernel)
      | onCursorLine hbelow _ => exact absurd hbelow (by decide)
    exact ((walk_closingSeen commaBehind ⟨0, 19⟩).2 [] "f-row".toList " wide".toList
      "Hello, ".toList htext hname rfl ⟨by decide, by decide⟩ (by decide) (by decide)
      (by decide)).mpr hunseen

/-- A `>` that is the first character of its line. -/
def bracketFirst : Document :=
  ⟨"<f-button\n>".toList, "vue"⟩

/-- A tag that is closed on a line between its own and the cursor line. -/
def closedBetween : Document :=
  ⟨"<f-button\n  label=\"x\">\n  text ".toList, "vue"⟩

/-- A tag with a bracket in a value. -/
def bracketInValue : Document :=
  ⟨"<f-button label=\">\">text ".toList, "vue"⟩

/-- **Element content can look like the inside of a tag.** Each of these tags is closed in front of
the cursor, in the grammar that occurrences are found by, and the walk finds it. -/
theorem walk_in_content :
    (commaBehind.openTag? ⟨0, 19⟩ = some ⟨"f-row", 0⟩ ∧
      body? none ((commaBehind.textUntil ⟨0, 19⟩).drop "<f-row".length) =
        some (" wide>".toList, "Hello, ".toList)) ∧
    (bracketFirst.openTag? ⟨1, 1⟩ = some ⟨"f-button", 0⟩ ∧
      body? none ((bracketFirst.textUntil ⟨1, 1⟩).drop "<f-button".length) =
        some ("\n>".toList, [])) ∧
    (closedBetween.openTag? ⟨2, 7⟩ = some ⟨"f-button", 0⟩ ∧
      body? none ((closedBetween.textUntil ⟨2, 7⟩).drop "<f-button".length) =
        some ("\n  label=\"x\">".toList, "\n  text ".toList)) ∧
    (bracketInValue.openTag? ⟨0, 25⟩ = some ⟨"f-button", 0⟩ ∧
      body? none ((bracketInValue.textUntil ⟨0, 25⟩).drop "<f-button".length) =
        some (" label=\">\">".toList, "text ".toList)) := by
  decide +kernel

end MarkupAssist
