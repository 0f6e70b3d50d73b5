import Mathlib.Data.List.TakeWhile
import MarkupAssist.Cursor.Context
import MarkupAssist.Proofs.TypedText

/-!
# The context while a tag is typed

A tag is typed from left to right: its name, some attributes, then the name or the
value of one more, and finally its `>`. The questions that `Document.context` asks
about the cursor (is a quote open, which tag is open, which brackets surround the
cursor, which name stands in front of the value) all have to agree on the part
that is being typed.

* `contextBetween`: what the cursor is on between two texts.
* `enclosingTag?_typed`, `attributeBefore?_eq`, `valueContext?_eq`: the answers for an
  open value.
* `contextBetween_tagStart`, `contextBetween_inside`, `contextBetween_value`,
  `contextBetween_closed`: the four stages, for any text inside the tag that is
  balanced and quiet.

`context_while_typing` puts them together.
-/

namespace MarkupAssist

open Text Cursor Markup

/-- What the cursor is on when it stands between two texts. -/
def contextBetween (before after : List Char) (language : String) : CursorContext :=
  let doc : Document := ⟨before ++ after, language⟩
  doc.context (doc.positionAt before.length)

/-! ### The tag around the cursor -/

/-- **The brackets around the cursor are those of the tag that is being typed.** -/
theorem Document.Splits.enclosingTag?_typed {doc : Document} {above : List (List Char)}
    {before after : List Char} (h : doc.Splits above before after) {pre tag cs : List Char}
    (htext : unlines above ++ before = pre ++ '<' :: (tag ++ cs)) (htag : NameText tag)
    (hhead : cs.head?.any isSeparator = true) (hopen : '<' ∉ cs) :
    doc.enclosingTag? ⟨above.length, before.length⟩ = some (String.ofList tag) := by
  have hinner : '<' ∉ tag ++ cs := by
    rw [List.mem_append, not_or]
    exact ⟨htag.notMem (by decide), hopen⟩
  cases cs with
  | nil => cases hhead
  | cons c cs =>
    have hc : isSeparator c = true := hhead
    refine h.enclosingTag?_eq htext hinner (List.append_assoc ..) htag ?_ fun _ => ?_
    · exact endsTagName_of_isSeparator hc
    · rw [List.cons_append, List.any_cons, hc, Bool.true_or]

/-! ### The attribute in front of the cursor -/

section OpenValue

variable {doc : Document} {above : List (List Char)} {line mark name typed after : List Char}
  {quote : Char} (h : doc.Splits above (line ++ openValue mark name quote typed) after)
  (hvalue : TypedValue mark name quote typed) (hline : line.getLast?.all isGap = true)

include h hvalue hline

/-- **The attribute whose value is being typed is the one behind the last gap.** -/
theorem Document.Splits.attributeBefore?_eq :
    doc.attributeBefore?
        ⟨above.length, (line ++ openValue mark name quote typed).length⟩ =
      some (String.ofList name) := by
  have htoken : openValue mark name quote typed = (mark ++ name ++ ['=']) ++ quote :: typed := by
    simp [openValue]
  have hfragment : assignmentFragment (line ++ openValue mark name quote typed) =
      openValue mark name quote typed := by
    rw [htoken]
    exact assignmentFragment_value hline hvalue.noGap_assigned hvalue.isQuote_quote
      hvalue.noQuote_typed
  have hquoted : hasQuoted (openValue mark name quote typed) = false := by
    rw [htoken]
    exact hasQuoted_eq_false hvalue.noQuote_assigned quote hvalue.noQuote_typed
  rw [attributeBefore?, h.textBefore, hfragment, hquoted, openValue,
    assignedName?_marked hvalue.mark_mem hvalue.name_text hvalue.isQuote_quote typed]
  rfl

/-- The value that is being typed belongs to the tag and the attribute in front of it. -/
theorem Document.Splits.valueContext?_eq (hbalanced : Balanced line) {pre tag cs : List Char}
    (htext : unlines above ++ line = pre ++ '<' :: (tag ++ cs)) (htag : NameText tag)
    (hcs : TagInside cs) :
    doc.valueContext? ⟨above.length, (line ++ openValue mark name quote typed).length⟩ =
      some (String.ofList tag, String.ofList name) := by
  have hopened : doc.valueQuote? ⟨above.length, (line ++ openValue mark name quote typed).length⟩ =
      some ⟨(line ++ (mark ++ name)).length + 1, quote⟩ := by
    have hbefore := hbalanced.append hvalue.marked.balanced
    rw [valueQuote?, h.textBefore,
      ← openQuote?_value hbefore hvalue.isQuote_quote hvalue.noQuote_typed]
    simp [openValue]
  have htext' : unlines above ++ (line ++ openValue mark name quote typed) =
      pre ++ '<' :: (tag ++ (cs ++ openValue mark name quote typed)) := by
    rw [← List.append_assoc, htext]
    simp
  have hopen : '<' ∉ cs ++ openValue mark name quote typed := by
    rw [List.mem_append, not_or]
    exact ⟨hcs.quiet.1, fun hmem => hvalue.disjoint hmem (by simp)⟩
  rw [valueContext?, hopened, h.enclosingTag?_typed htext' htag (hcs.head_append _) hopen,
    h.attributeBefore?_eq hvalue hline]
  rfl

end OpenValue

/-! ### The context at a cut -/

namespace Document.Splits

variable {doc : Document} {above : List (List Char)} {before after : List Char}
  (h : doc.Splits above before after)

include h

theorem context_of_value {tag name : String}
    (hvalue : doc.valueContext? ⟨above.length, before.length⟩ = some (tag, name)) :
    doc.context ⟨above.length, before.length⟩ = .attributeValue tag name := by
  simp only [context, h.clamp, hvalue]

theorem valueContext?_eq_none (hquote : openQuote? before = none) :
    doc.valueContext? ⟨above.length, before.length⟩ = none := by
  rw [valueContext?, valueQuote?, h.textBefore, hquote]

theorem context_of_open (hquote : openQuote? before = none) {token : TagToken}
    (hopen : doc.openTag? ⟨above.length, before.length⟩ = some token) :
    doc.context ⟨above.length, before.length⟩ = .attributeName token := by
  simp only [context, h.clamp, h.valueContext?_eq_none hquote, hopen]

theorem context_of_typed (hquote : openQuote? before = none)
    (hopen : doc.openTag? ⟨above.length, before.length⟩ = none) {typed : List Char}
    (htyped : typedTag? before = some typed) :
    doc.context ⟨above.length, before.length⟩ = .tagStart (String.ofList typed) := by
  simp only [context, h.clamp, h.valueContext?_eq_none hquote, hopen, h.textBefore, htyped]

theorem context_eq_unknown (hquote : openQuote? before = none)
    (hopen : doc.openTag? ⟨above.length, before.length⟩ = none)
    (htyped : typedTag? before = none) :
    doc.context ⟨above.length, before.length⟩ = .unknown := by
  simp only [context, h.clamp, h.valueContext?_eq_none hquote, hopen, h.textBefore, htyped]

theorem context_eq_tagStart_iff {name : List Char} :
    doc.context ⟨above.length, before.length⟩ = .tagStart (String.ofList name) ↔
      doc.valueContext? ⟨above.length, before.length⟩ = none ∧
        doc.openTag? ⟨above.length, before.length⟩ = none ∧ typedTag? before = some name := by
  simp only [context, h.clamp, h.textBefore]
  cases doc.valueContext? ⟨above.length, before.length⟩ with
  | some value => simp
  | none =>
    cases doc.openTag? ⟨above.length, before.length⟩ with
    | some token => simp
    | none => cases typedTag? before <;> simp [String.ofList_inj]

end Document.Splits

namespace Document

theorem valueContext?_eq_none_iff {doc : Document} {p : Position} :
    doc.valueContext? p = none ↔ doc.valueQuote? p = none ∨ doc.enclosingTag? p = none ∨
      (doc.attributeBefore? p).or (doc.attributeAround? p) = none := by
  rw [valueContext?]
  cases doc.valueQuote? p with
  | none => simp
  | some _ =>
    cases doc.enclosingTag? p with
    | none => simp
    | some _ => cases (doc.attributeBefore? p).or (doc.attributeAround? p) <;> simp

section StandsAt

variable {doc : Document} {p : Position} {above : List (List Char)} {before after : List Char}

theorem StandsAt.valueContext?_eq (h : doc.StandsAt p above before after) :
    doc.valueContext? p = doc.valueContext? ⟨above.length, before.length⟩ := by
  simp only [valueContext?, valueQuote?, enclosingTag?, attributeBefore?, attributeAround?,
    h.textBefore, h.splits.textBefore, h.textAfter, h.clamp_eq, h.splits.clamp]

/-- The context is that of the cut which the clamped cursor stands at. -/
theorem StandsAt.context_eq (h : doc.StandsAt (doc.clamp p) above before after) :
    doc.context p = doc.context ⟨above.length, before.length⟩ := by
  have hopen : doc.openTag? (doc.clamp p) = doc.openTag? ⟨above.length, before.length⟩ :=
    h.clamped.openTag?_eq
  simp only [context, h.valueContext?_eq, hopen, h.textBefore, h.splits.clamp,
    h.splits.textBefore]

end StandsAt

/-- The context does not change if the cursor is clamped once more. -/
theorem context_clamp (doc : Document) (p : Position) :
    doc.context (doc.clamp p) = doc.context p := by
  obtain ⟨above, before, after, h⟩ := doc.exists_standsAt_clamp p
  rw [h.context_eq, h.clamped.context_eq]

end Document

/-- The cursor between two texts stands at a cut. -/
theorem exists_splits_between {above : List (List Char)} {line before : List Char}
    (hbefore : before = unlines above ++ line) (habove : ∀ l ∈ above, '\n' ∉ l)
    (hline : '\n' ∉ line) (hlast : before.getLast? ≠ some '\r') (after : List Char)
    (language : String) :
    ∃ doc : Document, doc.Splits above line after ∧
      contextBetween before after language = doc.context ⟨above.length, line.length⟩ := by
  have hsplits : (⟨before ++ after, language⟩ : Document).Splits above line after := by
    refine Document.splits_of_chars ?_ habove hline ?_
    · rw [hbefore, List.append_assoc]
    · intro _ hreturn
      apply hlast
      have hne : line ≠ [] := by
        rintro rfl
        cases hreturn
      rw [hbefore, List.getLast?_append_of_ne_nil _ hne, hreturn]
  refine ⟨_, hsplits, ?_⟩
  rw [contextBetween, ← hsplits.positionAt, ← hbefore]

/-! ### The stages -/

theorem typedTag?_eq_some_iff {line name : List Char} :
    typedTag? line = some name ↔
      ∃ front, line = front ++ '<' :: name ∧ ∀ c ∈ name, isNameChar c = true := by
  constructor
  · intro htyped
    rw [typedTag?] at htyped
    split at htyped
    · next front c rest hcut =>
      obtain ⟨d, tail, heq, hd⟩ := exists_of_splitLast? hcut
      obtain ⟨rfl, rfl⟩ := List.cons.inj heq
      obtain rfl : c = '<' := by simpa using hd
      split at htyped
      · next hall =>
        obtain rfl := Option.some.inj htyped
        exact ⟨front, (splitLast?_append hcut).symm, List.all_eq_true.mp hall⟩
      · cases htyped
    · cases htyped
  · rintro ⟨front, rfl, hname⟩
    have hcut : splitLast? (· == '<') (front ++ '<' :: name) = some (front, '<' :: name) := by
      refine splitLast?_append_cons (by decide) fun c hc => ?_
      simpa using ne_of_isNameChar (hname c hc) (show isNameChar '<' = false by decide)
    simp only [typedTag?, hcut, if_pos (List.all_eq_true.mpr hname)]

/-- Behind a `>` no tag name is being typed. -/
theorem typedTag?_eq_none {line : List Char} (hline : line.getLast? = some '>') :
    typedTag? line = none := by
  rw [Option.eq_none_iff_forall_ne_some]
  intro name htyped
  obtain ⟨front, rfl, hname⟩ := typedTag?_eq_some_iff.mp htyped
  -- the `>` would be a part of the name
  rw [List.getLast?_append_of_ne_nil _ (List.cons_ne_nil _ _)] at hline
  have hmem : '>' ∈ name := by simpa using List.mem_of_getLast? hline
  exact notMem_of_nameChars hname (by decide) hmem

/-- A name behind a bracket does not end with a carriage return. -/
theorem getLast?_open (front : List Char) {name : List Char}
    (hname : ∀ c ∈ name, isNameChar c = true) : (front ++ '<' :: name).getLast? ≠ some '\r' := by
  rw [List.getLast?_append_of_ne_nil _ (List.cons_ne_nil _ _)]
  intro hreturn
  have hmem : '\r' ∈ name := by simpa using List.mem_of_getLast? hreturn
  exact notMem_of_nameChars hname (by decide) hmem

section Stages

variable {pre : List Char} (hpre : OuterText pre)

include hpre

/-- The text up to the cursor is balanced if the inside of the tag is. -/
theorem balanced_before {tag cs : List Char} (htag : ∀ c ∈ tag, isNameChar c = true)
    (hcs : Balanced cs) : Balanced (pre ++ '<' :: (tag ++ cs)) :=
  hpre.balanced.append (.plain rfl ((plainText_of_nameChars htag).balanced.append hcs))

theorem contextBetween_tagStart {typed : List Char} (htyped : ∀ c ∈ typed, isNameChar c = true)
    (after : List Char) (language : String) :
    contextBetween (pre ++ '<' :: typed) after language = .tagStart (String.ofList typed) := by
  have hbalanced := balanced_before hpre htyped .nil
  have hquiet := hpre.quiet
  obtain ⟨above, front, rfl, habove, hfront⟩ := exists_unlines pre
  rw [List.append_nil, List.append_assoc] at hbalanced
  have hlast := getLast?_open (unlines above ++ front) htyped
  have hline : '\n' ∉ front ++ '<' :: typed := by
    simp [hfront, notMem_of_nameChars htyped (show isNameChar '\n' = false by decide)]
  obtain ⟨doc, hsplits, hcontext⟩ :=
    exists_splits_between (List.append_assoc ..) habove hline hlast after language
  rw [hcontext]
  refine hsplits.context_of_typed (openQuote?_of_balanced hbalanced.last_line) ?_ ?_
  · refine hsplits.openTag?_typed (fun l hl => hquiet.of_subset fun c hc => ?_)
      (hquiet.of_subset fun c hc => List.mem_append_right _ hc) htyped
    exact List.mem_append_left _ (subset_unlines hl hc)
  · exact typedTag?_eq_some_iff.mpr ⟨front, rfl, htyped⟩

section Inside

variable {tag : List Char} (htag : NameText tag)

include htag

/-- The place of an attribute name, for any inside of the tag that spans at most nine line
breaks. -/
theorem contextBetween_inside {cs : List Char} (hcs : TagInside cs)
    (hlast : cs.getLast? ≠ some '\r') (hcount : cs.count '\n' < backwardLines)
    (after : List Char) (language : String) :
    contextBetween (pre ++ '<' :: (tag ++ cs)) after language =
      .attributeName ⟨String.ofList tag, pre.length⟩ := by
  have hbefore := balanced_before hpre htag.chars hcs.balanced
  have hhead := hcs.head
  have hquiet := hpre.quiet
  have hlast' : (pre ++ '<' :: (tag ++ cs)).getLast? ≠ some '\r' := by
    rwa [← List.cons_append, ← List.append_assoc, List.getLast?_append_of_ne_nil _ hcs.ne_nil]
  obtain ⟨above, line, hcut, htext, habove, hline⟩ := exists_tagLines pre htag.chars cs
  obtain ⟨doc, hsplits, hcontext⟩ := exists_splits_between htext habove hline hlast' after language
  rw [hcontext]
  rw [htext] at hbefore
  refine hsplits.context_of_open (openQuote?_of_balanced hbefore.last_line) ?_
  -- the walk finds the tag on the cursor line, where a blank ends its name, or on a line above,
  -- where the end of the line may do so as well
  cases hcut with
  | sameLine _ =>
    have hends : EndsName false cs := by
      cases cs with
      | nil => cases hhead
      | cons c cs => exact isBlank_of_isSeparator hhead
    exact hsplits.openTag?_sameLine (hquiet.of_subset fun c hc => List.mem_append_right _ hc) htag
      hends hcs.quiet
  | @lineAbove above front _ first below last hfeed =>
    have hquietLine : ∀ l ∈ first :: below, Quiet l := fun l hl =>
      hcs.quiet.of_subset fun c hc => List.mem_append_left _ (subset_unlines hl hc)
    have hends : EndsName true (dropReturn first) := by
      cases hread : dropReturn first with
      | nil => rfl
      | cons c rest =>
        obtain ⟨more, hmore⟩ := isPrefix_dropReturn first
        rw [hread] at hmore
        rw [← hmore, unlines_cons] at hhead
        exact isBlank_of_isSeparator hhead
    rw [List.count_append, count_unlines hfeed, List.count_eq_zero.mpr hline] at hcount
    exact hsplits.openTag?_above (hquiet.of_subset fun c hc => List.mem_append_right _ hc) htag
      hends (hquietLine first List.mem_cons_self)
      (fun l hl => hquietLine l (List.mem_cons_of_mem _ hl)) hcount
      (hcs.quiet.of_subset fun c hc => List.mem_append_right _ hc)

/-- Behind the `>` of the tag nothing is known, unless the `>` is the first character of its
line. -/
theorem contextBetween_closed {cs : List Char} (hbalanced : Balanced cs) (hcs : Quiet cs)
    (hlast : cs.getLast? ≠ some '\n') (after : List Char) (language : String) :
    contextBetween (pre ++ '<' :: (tag ++ (cs ++ ['>']))) after language = .unknown := by
  have hbefore := balanced_before hpre htag.chars (hbalanced.append (.plain (c := '>') rfl .nil))
  have hwhole : (pre ++ '<' :: (tag ++ (cs ++ ['>']))).getLast? = some '>' := by
    rw [← List.append_assoc tag, ← List.cons_append, ← List.append_assoc, List.getLast?_concat]
  obtain ⟨above, line, hcut, htext, habove, hline⟩ := exists_tagLines pre htag.chars (cs ++ ['>'])
  obtain ⟨doc, hsplits, hcontext⟩ :=
    exists_splits_between htext habove hline (by rw [hwhole]; decide) after language
  rw [hcontext]
  rw [htext] at hbefore hwhole
  have hend : line.getLast? = some '>' := getLast?_of_unlines_append hwhole (by decide)
  refine hsplits.context_eq_unknown (openQuote?_of_balanced hbefore.last_line)
    (hsplits.openTag?_stopped ?_) (typedTag?_eq_none hend)
  generalize hds : cs ++ ['>'] = ds at hcut
  cases hcut with
  | sameLine _ =>
    rw [← hds, stopsAtCursor, endsAfterTag_closed htag hcs]
    rfl
  | @lineAbove above front _ first below last _ =>
    obtain ⟨inner, rfl⟩ := List.getLast?_eq_some_iff.mp hend
    rw [← List.append_assoc] at hds
    have hsplit : cs = unlines (first :: below) ++ inner := List.append_cancel_right hds
    -- a line that is only the `>` would not stop the walk
    have hinner : inner ≠ [] := by
      rintro rfl
      rw [hsplit, List.append_nil] at hlast
      exact hlast (getLast?_unlines (List.cons_ne_nil _ _))
    have hopen : '<' ∉ inner := fun hmem => hcs.1 (hsplit ▸ List.mem_append_right _ hmem)
    rw [stopsAtCursor, endsAfterClose_closed hinner hopen, Bool.or_true, Bool.true_or]

/-- The value of an attribute, for any inside of the tag that ends with a gap. -/
theorem contextBetween_value {cs : List Char} (hcs : TagInside cs)
    (hend : ∀ c, cs.getLast? = some c → isGap c = true ∨ c = '\n') {mark name typed : List Char}
    {quote : Char} (hvalue : TypedValue mark name quote typed) (after : List Char)
    (language : String) :
    contextBetween (pre ++ '<' :: (tag ++ (cs ++ openValue mark name quote typed))) after
      language = .attributeValue (String.ofList tag) (String.ofList name) := by
  have hbefore := balanced_before hpre htag.chars hcs.balanced
  obtain ⟨above, line, htext, habove, hline⟩ := exists_unlines (pre ++ '<' :: (tag ++ cs))
  -- the line ends with a gap in front of the attribute, or starts with the attribute
  have hgap : line.getLast?.all isGap = true := by
    cases hlast : line.getLast? with
    | none => rfl
    | some c =>
      have hwhole : (unlines above ++ line).getLast? = some c := by
        rw [List.getLast?_append, hlast]
        rfl
      rw [← htext, ← List.cons_append, ← List.append_assoc,
        List.getLast?_append_of_ne_nil _ hcs.ne_nil] at hwhole
      refine (hend c hwhole).resolve_right ?_
      rintro rfl
      exact hline (List.mem_of_getLast? hlast)
  have htext' : pre ++ '<' :: (tag ++ (cs ++ openValue mark name quote typed)) =
      unlines above ++ (line ++ openValue mark name quote typed) := by
    rw [← List.append_assoc (unlines above), ← htext]
    simp
  have hnewline : '\n' ∉ line ++ openValue mark name quote typed := by
    rw [List.mem_append, not_or]
    exact ⟨hline, fun hmem => hvalue.disjoint hmem (by simp)⟩
  have hlast : (pre ++ '<' :: (tag ++ (cs ++ openValue mark name quote typed))).getLast? ≠
      some '\r' := by
    rw [htext', ← List.append_assoc, List.getLast?_append_of_ne_nil _ (by simp [openValue])]
    exact fun hreturn => hvalue.disjoint (List.mem_of_getLast? hreturn) (by simp)
  obtain ⟨doc, hsplits, hcontext⟩ :=
    exists_splits_between htext' habove hnewline hlast after language
  rw [hcontext]
  rw [htext] at hbefore
  exact hsplits.context_of_value
    (hsplits.valueContext?_eq hvalue hgap hbefore.last_line htext.symm htag hcs)

end Inside

end Stages

/-- **The context follows what is typed.** Text without angle brackets and quotes is followed by a
tag that is typed up to the cursor; any text may stand behind the cursor. Then the context is

* the start of a tag while the name is typed;
* the place of an attribute name, with the tag and its offset, behind a gap and whatever is typed of
  the name, if the tag was opened at most nine lines above;
* the value of an attribute, with the tag and the name without its mark, behind an equals sign and a
  quote;
* unknown behind the `>`, unless that is the first character of its line. -/
theorem context_while_typing {pre : List Char} (hpre : pre.Disjoint ['<', '>', '"', '\''])
    {tag : List Char} (hne : tag ≠ []) (htag : ∀ c ∈ tag, isNameChar c = true)
    (attributes : List TypedAttribute) (after : List Char) (language : String) :
    (∀ typed : List Char, (∀ c ∈ typed, isNameChar c = true) →
      contextBetween (pre ++ '<' :: typed) after language = .tagStart (String.ofList typed)) ∧
    (∀ gap typed before : List Char, gap ≠ [] → GapText gap →
      typed.Disjoint ['"', '\'', '<', '>', '\r', '\n'] →
      before = pre ++ '<' :: (tag ++ (attributesText attributes ++ (gap ++ typed))) →
      (Position.origin.advanceOver before).line ≤ (Position.origin.advanceOver pre).line + 9 →
      contextBetween before after language = .attributeName ⟨String.ofList tag, pre.length⟩) ∧
    (∀ (gap mark name : List Char) (quote : Char) (typed : List Char), gap ≠ [] → GapText gap →
      mark ∈ nameMarks → name ≠ [] → (∀ c ∈ name, isNameChar c = true) → isQuote quote = true →
      typed.Disjoint ['"', '\'', '<', '\r', '\n'] →
      contextBetween (pre ++ '<' :: (tag ++ (attributesText attributes ++ gap ++
        openValue mark name quote typed))) after language =
          .attributeValue (String.ofList tag) (String.ofList name)) ∧
    (∀ gap typed : List Char, GapText gap → typed.Disjoint ['"', '\'', '<', '>', '\r', '\n'] →
      (attributesText attributes ++ (gap ++ typed)).getLast? ≠ some '\n' →
      contextBetween (pre ++ '<' :: (tag ++ (attributesText attributes ++ (gap ++ typed) ++ ['>'])))
        after language = .unknown) := by
  have hname : NameText tag := ⟨hne, htag⟩
  refine ⟨fun typed htyped => contextBetween_tagStart hpre htyped after language, ?_, ?_, ?_⟩
  · rintro gap typed before hgapNe hgap htyped rfl hlines
    refine contextBetween_inside hpre hname (tagInside_typed attributes hgapNe hgap htyped) ?_ ?_
      after language
    · rw [List.getLast?_append_of_ne_nil _ (by simp [hgapNe])]
      exact hgap.getLast_typed htyped
    · -- the lines of the tag are counted from its `<`, which stands on the last line of `pre`
      rw [Position.line_advanceOver, Position.line_advanceOver, List.count_append,
        List.count_cons_of_ne (by decide), List.count_append,
        List.count_eq_zero.mpr (notMem_of_nameChars htag (by decide))] at hlines
      rw [backwardLines]
      omega
  · intro gap mark name quote typed hgapNe hgap hmark hnameNe hnameChars hquote htyped
    have hinside := tagInside_typed attributes hgapNe hgap (List.disjoint_nil_left _)
    rw [List.append_nil] at hinside
    refine contextBetween_value hpre hname hinside ?_ ⟨hmark, ⟨hnameNe, hnameChars⟩, hquote, htyped⟩
      after language
    intro c hc
    rw [List.getLast?_append_of_ne_nil _ hgapNe] at hc
    exact hgap.getLast hc
  · intro gap typed hgap htyped hlast
    exact contextBetween_closed hpre hname (balanced_typed attributes hgap htyped)
      (quiet_typed attributes hgap htyped) hlast after language

/-- A bound attribute on a line of its own. -/
def boundKind : TypedAttribute where
  gap := "\r\n  ".toList
  mark := [':']
  name := "kind".toList
  value := some ('"', "a = b".toList)
  gap_ne := by decide
  gap_text := ⟨[['\r', '\n'], [' '], [' ']], by decide, by decide⟩
  mark_mem := by decide
  name_ne := by decide
  name_chars := List.all_eq_true.mp rfl
  value_text := by
    rintro v ⟨⟩
    exact ⟨rfl, disjoint_of_all rfl⟩

/-- The four stages of a tag on its second line, with a closed tag behind the cursor. -/
theorem context_while_typing_boundKind :
    contextBetween "a\n<f-r".toList ">".toList "vue" = .tagStart "f-r" ∧
      contextBetween "a\n<f-row\r\n  :kind=\"a = b\"\n@cl".toList ">".toList "vue" =
        .attributeName ⟨"f-row", 2⟩ ∧
      contextBetween "a\n<f-row\r\n  :kind=\"a = b\"\tv-bind:size='x > ".toList ">".toList "vue" =
        .attributeValue "f-row" "size" ∧
      contextBetween "a\n<f-row\r\n  :kind=\"a = b\" />".toList "</f-row>".toList "vue" =
        .unknown := by
  have hpre : "a\n".toList.Disjoint ['<', '>', '"', '\''] := disjoint_of_all rfl
  have hne : "f-row".toList ≠ [] := by decide
  have htag : ∀ c ∈ "f-row".toList, isNameChar c = true := List.all_eq_true.mp rfl
  have h := context_while_typing hpre hne htag [boundKind]
  refine ⟨?_, ?_, ?_, ?_⟩
  · exact (h ">".toList "vue").1 "f-r".toList (List.all_eq_true.mp rfl)
  · exact (h ">".toList "vue").2.1 "\n".toList "@cl".toList _ (by decide) ⟨[['\n']], by decide, rfl⟩
      (disjoint_of_all rfl) rfl (by decide)
  · exact (h ">".toList "vue").2.2.1 "\t".toList "v-bind:".toList "size".toList '\'' "x > ".toList
      (by decide) ⟨[['\t']], by decide, rfl⟩ (by decide) (by decide) (List.all_eq_true.mp rfl) rfl
      (disjoint_of_all rfl)
  · exact (h "</f-row>".toList "vue").2.2.2 " ".toList "/".toList ⟨[[' ']], by decide, rfl⟩
      (disjoint_of_all rfl) (by decide)

end MarkupAssist
