import MarkupAssist.Proofs.Clamping
import MarkupAssist.Proofs.ClosedTag

/-!
# The nearest open tag

`Document.openTag?` looks for a `<`, a name and a blank, line by line upwards, and takes the last
such place of the first line that has one. On the cursor line it reads the text before the cursor;
on a line above, it reads the line without its break, and the end of the line counts as the blank.

Put together, these readings are one: the text from the start of the document to the cursor, in
which a line break is a blank.

* `OpensTag`: a tag is opened at a place of a text.
* `OpensOn`: a tag is opened at a position, on one of the lines in front of a cut, as the walk reads
  them. The two say the same (`Document.Splits.exists_opensOn`,
  `Document.Splits.opensTag_of_opensOn`).
* `Document.Splits.exists_nearest`: the walk finds the last of these positions.

`walk_finds_nearest` says what this means for a cursor anywhere in a document.
-/

namespace MarkupAssist

open Text Cursor

/-! ### Tags opened in a text -/

/-- A tag is opened at a place of a text: a `<`, a name, and a blank that ends the name. -/
def OpensTag (cs : List Char) (place : Nat) (name : List Char) : Prop :=
  NameText name ∧ ∃ blank, isBlank blank = true ∧ '<' :: (name ++ [blank]) <+: cs.drop place

theorem opensTag_iff {cs name : List Char} {place : Nat} :
    OpensTag cs place name ↔
      ∃ front rest, cs = front ++ '<' :: (name ++ rest) ∧ front.length = place ∧ NameText name ∧
        rest.head?.any isBlank = true := by
  constructor
  · rintro ⟨hname, blank, hblank, rest, hrest⟩
    have hsplit : cs.drop place = '<' :: (name ++ blank :: rest) := by
      rw [← hrest, List.cons_append, List.append_assoc, List.singleton_append]
    have hplace : place < cs.length := by
      rw [← List.drop_eq_nil_iff.not.trans Nat.not_le, hsplit]
      exact List.cons_ne_nil _ _
    refine ⟨cs.take place, blank :: rest, ?_, ?_, hname, hblank⟩
    · rw [← hsplit, List.take_append_drop]
    · rw [List.length_take, Nat.min_eq_left (Nat.le_of_lt hplace)]
  · rintro ⟨front, rest, rfl, rfl, hname, hhead⟩
    cases rest with
    | nil => cases hhead
    | cons blank rest =>
      refine ⟨hname, blank, hhead, rest, ?_⟩
      rw [List.drop_left, List.cons_append, List.append_assoc, List.singleton_append]

/-- The name of a tag is determined by its place. -/
theorem OpensTag.name_unique {cs name name' : List Char} {place : Nat} (h : OpensTag cs place name)
    (h' : OpensTag cs place name') : name = name' := by
  obtain ⟨front, rest, rfl, rfl, hname, hhead⟩ := opensTag_iff.mp h
  obtain ⟨front', rest', hsplit, hlength, hname', hhead'⟩ := opensTag_iff.mp h'
  obtain ⟨-, htag⟩ := List.append_inj hsplit hlength.symm
  have hread := openTagAt?_tag hname (endsName_false_iff.mpr hhead)
  rw [htag, openTagAt?_tag hname' (endsName_false_iff.mpr hhead')] at hread
  exact (Option.some.inj hread).symm

/-! ### Tags opened on a line -/

namespace Cursor

/-- A tag that stands on a line is found there. -/
theorem mem_openTags {atEnd : Bool} (front : List Char) {tag cs : List Char} (htag : NameText tag)
    (hcs : EndsName atEnd cs) :
    (front.length, tag) ∈ openTags atEnd (front ++ '<' :: (tag ++ cs)) := by
  induction front with
  | nil =>
    rw [List.nil_append, openTags, openTagAt?_tag htag hcs]
    exact List.mem_cons_self
  | cons c front ih =>
    have hlater : (front.length + 1, tag) ∈
        (openTags atEnd (front ++ '<' :: (tag ++ cs))).map fun found => (found.1 + 1, found.2) :=
      List.mem_map.mpr ⟨_, ih, rfl⟩
    rw [List.cons_append, openTags]
    split
    · exact List.mem_cons_of_mem _ hlater
    · exact hlater

/-- The tags of a line are listed from left to right. -/
theorem pairwise_openTags (atEnd : Bool) (cs : List Char) :
    (openTags atEnd cs).Pairwise fun a b => a.1 < b.1 := by
  induction cs with
  | nil => exact .nil
  | cons c cs ih =>
    have hlater : ((openTags atEnd cs).map fun found => (found.1 + 1, found.2)).Pairwise
        fun a b => a.1 < b.1 :=
      List.pairwise_map.mpr (ih.imp Nat.succ_lt_succ)
    rw [openTags]
    split
    · refine List.pairwise_cons.mpr ⟨fun tag htag => ?_, hlater⟩
      obtain ⟨found, -, rfl⟩ := List.mem_map.mp htag
      exact Nat.succ_pos _
    · exact hlater

theorem le_getLast?_openTags {atEnd : Bool} {cs : List Char} {tag last : Nat × List Char}
    (hlast : (openTags atEnd cs).getLast? = some last) (htag : tag ∈ openTags atEnd cs) :
    tag.1 ≤ last.1 := by
  obtain ⟨front, hsplit⟩ := List.getLast?_eq_some_iff.mp hlast
  have hsorted := pairwise_openTags atEnd cs
  rw [hsplit] at htag hsorted
  rcases List.mem_append.mp htag with hmem | hmem
  · exact Nat.le_of_lt ((List.pairwise_append.mp hsorted).2.2 tag hmem last List.mem_cons_self)
  · rw [List.mem_singleton.mp hmem]

/-- A tag is opened at a position in front of a cut, on the cursor line or on a line above it, as
the walk reads these lines. -/
inductive OpensOn (above : List (List Char)) (before : List Char) : Position → List Char → Prop
  | cursorLine {i : Nat} {name : List Char} (hmem : (i, name) ∈ openTags false before) :
      OpensOn above before ⟨above.length, i⟩ name
  | lineAbove {upper lower : List (List Char)} {raw : List Char} {i : Nat} {name : List Char}
      (hsplit : above = upper ++ raw :: lower) (hmem : (i, name) ∈ openTags true (dropReturn raw)) :
      OpensOn above before ⟨upper.length, i⟩ name

theorem OpensOn.line_le {above : List (List Char)} {before name : List Char} {p : Position}
    (h : OpensOn above before p name) : p.line ≤ above.length := by
  cases h with
  | cursorLine _ => exact Nat.le_refl _
  | lineAbove hsplit _ => simp [hsplit]

end Cursor

/-! ### The walk -/

namespace Document.Splits

variable {doc : Document} {above : List (List Char)} {before after : List Char}
  (h : doc.Splits above before after)

include h

/-- **What a line shows to the walk is in the text.** -/
theorem opensTag_of_opensOn {p : Position} {name : List Char}
    (hopens : OpensOn above before p name) :
    OpensTag (unlines above ++ before) (doc.offsetAt p) name ∧
      doc.positionAt (doc.offsetAt p) = p := by
  cases hopens with
  | cursorLine hmem =>
    obtain ⟨front, rest, rfl, rfl, hname, hends⟩ := exists_of_mem_openTags hmem
    have hchars : doc.chars = unlines above ++ (front ++ '<' :: (name ++ rest ++ after)) := by
      rw [h.chars, List.append_assoc front, List.cons_append]
    have hfront := splits_front hchars h.above_lines
      fun hfeed => h.before_line (List.mem_append_left _ hfeed)
    rw [hfront.offsetAt, hfront.positionAt, opensTag_iff]
    exact ⟨⟨_, rest, (List.append_assoc ..).symm, rfl, hname, endsName_false_iff.mp hends⟩, rfl⟩
  | @lineAbove upper lower raw _ _ hsplit hmem =>
    obtain ⟨front, visible, hvisible, rfl, hname, hends⟩ := exists_of_mem_openTags hmem
    obtain ⟨cs, rfl, rfl⟩ := exists_of_dropReturn_tag hname hvisible
    have htext : unlines above ++ before =
        unlines upper ++ front ++ '<' :: (name ++ (cs ++ '\n' :: (unlines lower ++ before))) := by
      rw [hsplit, unlines_append, unlines_cons]
      simp
    have hchars : doc.chars = unlines upper ++ (front ++ '<' ::
        (name ++ (cs ++ '\n' :: (unlines lower ++ before)) ++ after)) := by
      rw [h.chars, ← List.append_assoc, htext]
      simp
    have hlines : ∀ l ∈ upper ++ (front ++ '<' :: (name ++ cs)) :: lower, '\n' ∉ l :=
      hsplit ▸ h.above_lines
    have hfront := splits_front hchars (fun l hl => hlines l (List.mem_append_left _ hl))
      fun hfeed => hlines _ (List.mem_append_right upper List.mem_cons_self)
        (List.mem_append_left _ hfeed)
    rw [hfront.offsetAt, hfront.positionAt, opensTag_iff]
    -- the break of the line is the blank, if nothing else follows the name
    exact ⟨⟨_, _, htext, rfl, hname, (endsName_dropReturn_iff _).mp hends⟩, rfl⟩

/-- **What is in the text is shown to the walk by some line.** -/
theorem exists_opensOn {place : Nat} {name : List Char}
    (hopens : OpensTag (unlines above ++ before) place name) :
    ∃ p, OpensOn above before p name ∧ doc.offsetAt p = place := by
  obtain ⟨pre, rest, htext, rfl, hname, hhead⟩ := opensTag_iff.mp hopens
  -- the name has no line feed, so it stands on one line
  obtain ⟨above', before', htag, htext', habove', hbefore'⟩ := exists_tagLines pre hname.chars rest
  obtain ⟨rfl, rfl⟩ := unlines_unique (htext.trans htext') h.above_lines h.before_line habove'
    hbefore'
  suffices hon : ∃ p, OpensOn above before p name ∧
      ∃ upper front, pre = unlines upper ++ front ∧ p = ⟨upper.length, front.length⟩ ∧
        (∀ l ∈ upper, '\n' ∉ l) ∧ '\n' ∉ front by
    obtain ⟨p, hon, upper, front, rfl, rfl, hupper, hfront⟩ := hon
    refine ⟨_, hon, ?_⟩
    have hchars : doc.chars = unlines upper ++ (front ++ '<' :: (name ++ rest ++ after)) := by
      rw [h.chars, ← List.append_assoc, htext]
      simp
    exact (splits_front hchars hupper hfront).offsetAt
  cases htag with
  | @sameLine _ front _ _ _ =>
    refine ⟨_, .cursorLine (mem_openTags front hname (endsName_false_iff.mpr hhead)), above, front,
      rfl, rfl, h.above_lines, fun hfeed => h.before_line (List.mem_append_left _ hfeed)⟩
  | @lineAbove upper front _ first below last hlines =>
    have hraw := h.above_lines _ (List.mem_append_right upper List.mem_cons_self)
    have hends : EndsName true (dropReturn first) := by
      rw [unlines_cons, List.append_assoc, List.cons_append] at hhead
      exact (endsName_dropReturn_iff _).mpr hhead
    have hmem := mem_openTags front hname hends
    rw [← dropReturn_tag hname] at hmem
    exact ⟨_, .lineAbove rfl hmem, upper, front, rfl, rfl,
      fun l hl => h.above_lines l (List.mem_append_left _ hl),
      fun hfeed => hraw (List.mem_append_left _ hfeed)⟩

/-- **The walk finds the last tag that is opened in front of the cursor**, and it looks no further
than nine lines up. -/
theorem exists_nearest {token : TagToken}
    (hfound : doc.openTag? ⟨above.length, before.length⟩ = some token) :
    ∃ p name, OpensOn above before p name ∧ token = ⟨String.ofList name, doc.offsetAt p⟩ ∧
      above.length < p.line + backwardLines ∧
      ∀ q name', OpensOn above before q name' → q ≤ p := by
  rw [h.openTag?_eq] at hfound
  split at hfound
  · cases hfound
  rcases Option.or_eq_some_iff.mp hfound with hline | ⟨hnone, hwalk⟩
  · -- on the cursor line: every other tag is further to the left or further up
    obtain ⟨⟨i, name⟩, hlast, rfl⟩ := Option.map_eq_some_iff.mp hline
    refine ⟨_, name, .cursorLine (List.mem_of_getLast? hlast), rfl, ?_, fun q name' hopens => ?_⟩
    · exact Nat.lt_add_of_pos_right (by decide)
    · rw [Position.le_iff]
      cases hopens with
      | cursorLine hmem => exact .inr ⟨rfl, le_getLast?_openTags hlast hmem⟩
      | lineAbove hsplit _ =>
        left
        simp [hsplit]
  · -- on a line above: the cursor line opens no tag, nor does a line that the walk has passed
    have hbefore : openTags false before = [] := tagToken?_eq_none_iff.mp hnone
    obtain ⟨passed, line, rest, hlines, hpassed, -, htoken⟩ := exists_of_openTagAbove? hwalk
    obtain ⟨upper, raw, lower, hsplit, rfl, rfl, hwindow⟩ := exists_of_reverse_drop hlines
    obtain ⟨⟨i, name⟩, hlast, rfl⟩ := Option.map_eq_some_iff.mp htoken
    have hlength : above.length = upper.length + 1 + lower.length := by
      rw [hsplit, List.length_append, List.length_cons]
      omega
    have hnumber : above.length - 1 - (lower.map dropReturn).reverse.length = upper.length := by
      rw [List.length_reverse, List.length_map]
      omega
    refine ⟨⟨upper.length, i⟩, name, .lineAbove hsplit (List.mem_of_getLast? hlast), ?_, ?_,
      fun q name' hopens => ?_⟩
    · rw [hnumber]
    · rw [backwardLines] at hwindow ⊢
      show above.length < upper.length + 10
      omega
    · rw [Position.le_iff]
      cases hopens with
      | cursorLine hmem =>
        rw [hbefore] at hmem
        cases hmem
      | @lineAbove upper' lower' raw' _ _ hsplit' hmem =>
        rcases append_cons_cases (hsplit'.symm.trans hsplit) with hlt | ⟨rfl, rfl⟩ | hbelow
        · exact .inl hlt
        · exact .inr ⟨rfl, le_getLast?_openTags hlast hmem⟩
        · -- a line below would have ended the walk
          have hnone' := hpassed (dropReturn raw') (by simpa using ⟨raw', hbelow, rfl⟩)
          rw [hnone'] at hmem
          cases hmem

end Document.Splits

/-- **The walk finds the nearest tag that is opened in front of the cursor.** The token is the
place of a `<`, the name behind it and a blank, all in front of the cursor and at most nine lines
above it, and no other such place lies between it and the cursor. If none starts on these lines,
there is no token. -/
theorem walk_finds_nearest (doc : Document) (cursor : Position) :
    (∀ token, doc.openTag? cursor = some token →
      OpensTag (doc.textUntil (doc.clamp cursor)) token.offset token.text.toList ∧
      (doc.positionAt token.offset).line ≤ (doc.clamp cursor).line ∧
      (doc.clamp cursor).line ≤ (doc.positionAt token.offset).line + 9 ∧
      ∀ place name, OpensTag (doc.textUntil (doc.clamp cursor)) place name →
        token.offset ≤ place → place = token.offset ∧ name = token.text.toList) ∧
    ((∀ place name, OpensTag (doc.textUntil (doc.clamp cursor)) place name →
        (doc.positionAt place).line + 9 < (doc.clamp cursor).line) →
      doc.openTag? cursor = none) := by
  obtain ⟨above, before, after, hstands⟩ := doc.exists_standsAt_clamp cursor
  have hsplits := hstands.splits
  rw [hstands.textUntil, hstands.line_eq, hstands.openTag?_eq]
  -- what the walk finds, read in the text
  have hread : ∀ token, doc.openTag? ⟨above.length, before.length⟩ = some token →
      OpensTag (unlines above ++ before) token.offset token.text.toList ∧
      (doc.positionAt token.offset).line ≤ above.length ∧
      above.length ≤ (doc.positionAt token.offset).line + 9 ∧
      ∀ place name, OpensTag (unlines above ++ before) place name →
        token.offset ≤ place → place = token.offset ∧ name = token.text.toList := by
    intro token hfound
    obtain ⟨p, name, hopens, rfl, hwindow, hnearest⟩ := hsplits.exists_nearest hfound
    obtain ⟨htag, hposition⟩ := hsplits.opensTag_of_opensOn hopens
    simp only [String.toList_ofList, hposition]
    refine ⟨htag, hopens.line_le, Nat.le_of_lt_succ hwindow, fun place name' hother hle => ?_⟩
    obtain ⟨q, hopens', rfl⟩ := hsplits.exists_opensOn hother
    have hsame : doc.offsetAt q = doc.offsetAt p :=
      Nat.le_antisymm (Document.offsetAt_mono (hnearest q name' hopens')) hle
    exact ⟨hsame, (hsame ▸ hother).name_unique htag⟩
  refine ⟨hread, fun hfar => ?_⟩
  rw [Option.eq_none_iff_forall_ne_some]
  intro token hfound
  obtain ⟨htag, -, hwindow, -⟩ := hread token hfound
  exact absurd (hfar _ _ htag) (Nat.not_lt.mpr hwindow)

/-- A tag on a line of its own with a line break behind its name, and a closed tag above it. -/
def foldedButton : Document :=
  ⟨"<f-div>\r\n  <f-button\r\n    label=\"<f-x\"\r\n    ".toList, "vue"⟩

/-- A tag that is opened ten lines above the end of the text. -/
def distantTag : Document :=
  ⟨"<f-row \n\n\n\n\n\n\n\n\n\nwide".toList, "vue"⟩

/-- The line break ends the name of the nearest tag, and a tag ten lines above is out of reach. -/
theorem walk_finds_nearest_foldedButton :
    foldedButton.openTag? ⟨3, 40⟩ = some ⟨"f-button", 11⟩ ∧
      (∀ place name, OpensTag (foldedButton.textUntil (foldedButton.clamp ⟨3, 40⟩)) place name →
        11 ≤ place → place = 11 ∧ name = "f-button".toList) ∧
      distantTag.openTag? ⟨10, 4⟩ = none := by
  have hfound : foldedButton.openTag? ⟨3, 40⟩ = some ⟨"f-button", 11⟩ := by decide +kernel
  refine ⟨hfound, ((walk_finds_nearest foldedButton ⟨3, 40⟩).1 _ hfound).2.2.2, ?_⟩
  refine (walk_finds_nearest distantTag ⟨10, 4⟩).2 fun place name hopens => ?_
  have htext : distantTag.textUntil (distantTag.clamp ⟨10, 4⟩) =
      '<' :: "f-row \n\n\n\n\n\n\n\n\n\nwide".toList := by
    decide +kernel
  obtain ⟨front, rest, hsplit, rfl, -⟩ := opensTag_iff.mp hopens
  rw [htext] at hsplit
  cases front with
  | nil => decide +kernel
  | cons c front =>
    -- there is no second `<`
    have hmem : '<' ∈ "f-row \n\n\n\n\n\n\n\n\n\nwide".toList := by
      rw [(List.cons.inj hsplit).2]
      simp
    exact absurd hmem (by decide)

end MarkupAssist
