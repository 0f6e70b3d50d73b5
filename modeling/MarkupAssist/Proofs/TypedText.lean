import MarkupAssist.Cursor.Bracket
import MarkupAssist.Proofs.AttributeScan
import MarkupAssist.Proofs.EnclosingTag
import MarkupAssist.Proofs.OpenValue
import MarkupAssist.Proofs.TagWalk

/-!
# The text of a tag that is being typed

A tag that is not yet closed is its name, some attributes, a gap, and the start of
one more attribute. Each part keeps out of the way of the readers of the cursor:
it has no angle bracket (`Quiet`) and its quotes stand around values (`Balanced`).

* `TypedAttribute`: an attribute as it can stand in the tag, with the gap in front
  of it.
* `PlainText`: what can be typed of one more attribute without opening a value, and
  `TypedValue`: the parts of one whose value is open.
* `TagInside`: what the readers need to know of all that stands between the name of
  the tag and the cursor (`tagInside_typed`).
-/

namespace MarkupAssist

open Text Cursor Markup

/-! ### What is typed -/

/-- What separates the attributes of a tag: spaces, tabs and line breaks of both kinds. -/
def gapPieces : List (List Char) :=
  [[' '], ['\t'], ['\n'], ['\r', '\n']]

/-- A run of spaces, tabs and line breaks. -/
def GapText (cs : List Char) : Prop :=
  ∃ pieces : List (List Char), (∀ piece ∈ pieces, piece ∈ gapPieces) ∧ cs = pieces.flatten

/-- An attribute of the tag that is being typed, with the gap in front of it: a name, which may
carry a mark, and perhaps a quoted value. -/
structure TypedAttribute where
  gap : List Char
  mark : List Char
  name : List Char
  /-- The quote and the value between the quotes. -/
  value : Option (Char × List Char)
  gap_ne : gap ≠ []
  gap_text : GapText gap
  mark_mem : mark ∈ nameMarks
  name_ne : name ≠ []
  name_chars : ∀ c ∈ name, isNameChar c = true
  value_text : ∀ v ∈ value, isQuote v.1 = true ∧ v.2.Disjoint ['"', '\'', '<', '>', '\r', '\n']

/-- The attribute as text. -/
def TypedAttribute.text (a : TypedAttribute) : List Char :=
  a.gap ++
    match a.value with
    | none => a.mark ++ a.name
    | some (quote, value) => quotedAttribute (a.mark ++ a.name) quote value

/-- The attributes as text. -/
def attributesText (attributes : List TypedAttribute) : List Char :=
  attributes.flatMap TypedAttribute.text

/-- An attribute whose value is being typed. -/
def openValue (mark name : List Char) (quote : Char) (typed : List Char) : List Char :=
  mark ++ (name ++ '=' :: quote :: typed)

/-! ### Characters that are left out -/

theorem disjoint_of_all {cs ds : List Char} (h : (cs.all fun c => !ds.contains c) = true) :
    cs.Disjoint ds := by
  intro c hc hd
  have hfree := List.all_eq_true.mp h c hc
  rw [List.contains_iff_mem.mpr hd] at hfree
  cases hfree

theorem noQuote_of_disjoint {cs ds : List Char} (h : cs.Disjoint ds) (hdouble : '"' ∈ ds)
    (hsingle : '\'' ∈ ds) : ∀ c ∈ cs, isQuote c = false := by
  intro c hc
  have hne : ∀ d ∈ ds, c ≠ d := by
    rintro d hd rfl
    exact h hc hd
  simp [isQuote, hne _ hdouble, hne _ hsingle]

/-- The text in front of the tag: no angle brackets and no quotes. -/
def OuterText (cs : List Char) : Prop :=
  cs.Disjoint ['<', '>', '"', '\'']

theorem OuterText.quiet {cs : List Char} (h : OuterText cs) : Quiet cs :=
  ⟨fun hmem => h hmem (by simp), fun hmem => h hmem (by simp)⟩

theorem OuterText.balanced {cs : List Char} (h : OuterText cs) : Balanced cs :=
  Balanced.of_noQuote (noQuote_of_disjoint h (by simp) (by simp))

/-- Text on one line without angle brackets and quotes. -/
def PlainText (cs : List Char) : Prop :=
  cs.Disjoint ['"', '\'', '<', '>', '\r', '\n']

namespace PlainText

variable {cs : List Char} (h : PlainText cs)

include h

theorem quiet : Quiet cs :=
  ⟨fun hmem => h hmem (by simp), fun hmem => h hmem (by simp)⟩

theorem noQuote : ∀ c ∈ cs, isQuote c = false :=
  noQuote_of_disjoint h (by simp) (by simp)

theorem balanced : Balanced cs :=
  Balanced.of_noQuote h.noQuote

end PlainText

theorem plainText_of_nameChars {cs : List Char} (hcs : ∀ c ∈ cs, isNameChar c = true) :
    PlainText cs := by
  intro c hc hd
  have hnone : ['"', '\'', '<', '>', '\r', '\n'].all (fun d => !isNameChar d) = true := by decide
  have hname := List.all_eq_true.mp hnone c hd
  rw [hcs c hc] at hname
  cases hname

/-- A name with its mark is plain text. -/
theorem plainText_marked {mark name : List Char} (hmark : mark ∈ nameMarks)
    (hname : ∀ c ∈ name, isNameChar c = true) : PlainText (mark ++ name) := by
  have hmarks : ∀ mark ∈ nameMarks,
      (mark.all fun c => !List.contains ['"', '\'', '<', '>', '\r', '\n'] c) = true := by
    decide
  rw [PlainText, List.disjoint_append_left]
  exact ⟨disjoint_of_all (hmarks mark hmark), plainText_of_nameChars hname⟩

/-! ### Gaps -/

namespace GapText

variable {cs : List Char} (h : GapText cs)

include h

theorem isSeparator : ∀ c ∈ cs, Cursor.isSeparator c = true := by
  obtain ⟨pieces, hpieces, rfl⟩ := h
  intro c hc
  obtain ⟨piece, hpiece, hc⟩ := List.mem_flatten.mp hc
  have hall : gapPieces.all (·.all Cursor.isSeparator) = true := rfl
  exact List.all_eq_true.mp (List.all_eq_true.mp hall piece (hpieces piece hpiece)) c hc

/-- A gap ends with a space, a tab or a line feed. -/
theorem getLast {c : Char} (hc : cs.getLast? = some c) : isGap c = true ∨ c = '\n' := by
  obtain ⟨pieces, hpieces, rfl⟩ := h
  have hall : ∀ piece ∈ gapPieces, piece ≠ [] ∧
      piece.getLast?.all (fun c => isGap c || c == '\n') = true := by decide
  rcases List.eq_nil_or_concat pieces with rfl | ⟨front, piece, rfl⟩
  · cases hc
  · obtain ⟨hne, hlast⟩ := hall piece (hpieces piece (by simp))
    rw [List.concat_eq_append, List.flatten_concat, List.getLast?_append_of_ne_nil _ hne] at hc
    simpa [hc] using hlast

theorem quiet : Quiet cs :=
  ⟨fun hmem => absurd (h.isSeparator _ hmem) (by decide),
    fun hmem => absurd (h.isSeparator _ hmem) (by decide)⟩

theorem balanced : Balanced cs := by
  refine Balanced.of_noQuote fun c hc => ?_
  rcases eq_of_isSeparator (h.isSeparator c hc) with rfl | rfl | rfl | rfl <;> decide

theorem head (hne : cs ≠ []) (ds : List Char) :
    (cs ++ ds).head?.any Cursor.isSeparator = true := by
  obtain ⟨c, cs, rfl⟩ := List.exists_cons_of_ne_nil hne
  exact h.isSeparator c List.mem_cons_self

/-- The cursor behind a gap and plain text does not stand between the two characters of a line
break. -/
theorem getLast_typed {typed : List Char} (htyped : PlainText typed) :
    (cs ++ typed).getLast? ≠ some '\r' := by
  rw [List.getLast?_append]
  intro hreturn
  cases hlast : typed.getLast? with
  | some c =>
    -- plain text has no carriage return at all
    obtain rfl : c = '\r' := by simpa [hlast] using hreturn
    exact htyped (List.mem_of_getLast? hlast) (by simp)
  | none =>
    -- and in a gap a line feed follows each of them
    rcases h.getLast (by simpa [hlast] using hreturn) with hgap | hbreak
    · cases hgap
    · cases hbreak

end GapText

/-! ### Attributes -/

namespace TypedAttribute

variable (a : TypedAttribute)

theorem quiet : Quiet a.text := by
  have hname := (plainText_marked a.mark_mem a.name_chars).quiet
  refine a.gap_text.quiet.append ?_
  cases hvalue : a.value with
  | none => exact hname
  | some v =>
    obtain ⟨hquote, htext⟩ := a.value_text v hvalue
    have hquotes : Quiet [v.1] := by
      refine ⟨?_, ?_⟩ <;>
      · rw [List.mem_singleton]
        intro h
        rw [← h] at hquote
        cases hquote
    have heq : Quiet ['='] := ⟨by decide, by decide⟩
    exact hname.append (heq.append (hquotes.append ((PlainText.quiet htext).append hquotes)))

theorem balanced : Balanced a.text := by
  have hname := (plainText_marked a.mark_mem a.name_chars).balanced
  refine a.gap_text.balanced.append ?_
  cases hvalue : a.value with
  | none => exact hname
  | some v =>
    obtain ⟨hquote, htext⟩ := a.value_text v hvalue
    exact hname.append (.value hquote (PlainText.noQuote htext) (fun hmem => htext hmem (by simp))
      .nil)

end TypedAttribute

theorem quiet_attributesText (attributes : List TypedAttribute) :
    Quiet (attributesText attributes) := by
  induction attributes with
  | nil => exact ⟨by simp [attributesText], by simp [attributesText]⟩
  | cons a attributes ih => exact a.quiet.append ih

theorem balanced_attributesText (attributes : List TypedAttribute) :
    Balanced (attributesText attributes) := by
  induction attributes with
  | nil => exact .nil
  | cons a attributes ih => exact a.balanced.append ih

/-- What follows the name of the tag starts with a separator. -/
theorem head_attributesText (attributes : List TypedAttribute) {gap : List Char} (hne : gap ≠ [])
    (hgap : GapText gap) (cs : List Char) :
    (attributesText attributes ++ (gap ++ cs)).head?.any isSeparator = true := by
  -- the first gap is that of the first attribute, or the last one if there is no attribute
  cases attributes with
  | nil => exact hgap.head hne cs
  | cons a attributes =>
    rw [attributesText, List.flatMap_cons, TypedAttribute.text, List.append_assoc,
      List.append_assoc]
    exact a.gap_text.head a.gap_ne _

/-! ### The inside of the tag -/

theorem quiet_typed (attributes : List TypedAttribute) {gap typed : List Char}
    (hgap : GapText gap) (htyped : PlainText typed) :
    Quiet (attributesText attributes ++ (gap ++ typed)) :=
  (quiet_attributesText attributes).append (hgap.quiet.append htyped.quiet)

theorem balanced_typed (attributes : List TypedAttribute) {gap typed : List Char}
    (hgap : GapText gap) (htyped : PlainText typed) :
    Balanced (attributesText attributes ++ (gap ++ typed)) :=
  (balanced_attributesText attributes).append (hgap.balanced.append htyped.balanced)

/-- What stands between the name of an open tag and the cursor. -/
structure TagInside (cs : List Char) : Prop where
  balanced : Balanced cs
  quiet : Quiet cs
  /-- The name of the tag is complete. -/
  head : cs.head?.any isSeparator = true

theorem TagInside.ne_nil {cs : List Char} (h : TagInside cs) : cs ≠ [] := by
  rintro rfl
  cases h.head

theorem TagInside.head_append {cs : List Char} (h : TagInside cs) (ds : List Char) :
    (cs ++ ds).head?.any isSeparator = true := by
  obtain ⟨c, cs, rfl⟩ := List.exists_cons_of_ne_nil h.ne_nil
  exact h.head

theorem tagInside_typed (attributes : List TypedAttribute) {gap typed : List Char}
    (hne : gap ≠ []) (hgap : GapText gap) (htyped : PlainText typed) :
    TagInside (attributesText attributes ++ (gap ++ typed)) where
  balanced := balanced_typed attributes hgap htyped
  quiet := quiet_typed attributes hgap htyped
  head := head_attributesText attributes hne hgap typed

/-! ### An open value -/

/-- The parts of an attribute whose value is being typed. Unlike a plain text, the value may hold
a `>`. -/
structure TypedValue (mark name : List Char) (quote : Char) (typed : List Char) : Prop where
  mark_mem : mark ∈ nameMarks
  name_text : NameText name
  isQuote_quote : isQuote quote = true
  typed_text : typed.Disjoint ['"', '\'', '<', '\r', '\n']

namespace TypedValue

variable {mark name typed : List Char} {quote : Char} (h : TypedValue mark name quote typed)

include h

theorem marked : PlainText (mark ++ name) :=
  plainText_marked h.mark_mem h.name_text.chars

theorem noQuote_typed : ∀ c ∈ typed, isQuote c = false :=
  noQuote_of_disjoint h.typed_text (by simp) (by simp)

theorem noQuote_assigned : ∀ c ∈ mark ++ name ++ ['='], isQuote c = false := by
  intro c hc
  rcases List.mem_append.mp hc with hc | hc
  · exact h.marked.noQuote c hc
  · rw [List.mem_singleton.mp hc]
    decide

/-- The gap in front of the attribute is the last one up to the quote. -/
theorem noGap_assigned : ∀ c ∈ mark ++ name ++ ['='], isGap c = false := by
  have hmarks : ∀ mark ∈ nameMarks, (mark.all fun c => !isGap c) = true := by decide
  intro c hc
  rw [List.append_assoc] at hc
  rcases List.mem_append.mp hc with hc | hc
  · simpa using List.all_eq_true.mp (hmarks mark h.mark_mem) c hc
  rcases List.mem_append.mp hc with hc | hc
  · have hspace := ne_of_isNameChar (h.name_text.chars c hc) (show isNameChar ' ' = false by decide)
    have htab := ne_of_isNameChar (h.name_text.chars c hc) (show isNameChar '\t' = false by decide)
    simp [isGap, hspace, htab]
  · rw [List.mem_singleton.mp hc]
    decide

/-- The open value adds no tag and no line break. -/
theorem disjoint : (openValue mark name quote typed).Disjoint ['<', '\r', '\n'] := by
  intro c hc hd
  rw [openValue, ← List.append_assoc] at hc
  rcases List.mem_append.mp hc with hc | hc
  · have hsub : ['<', '\r', '\n'] ⊆ ['"', '\'', '<', '>', '\r', '\n'] := by simp
    exact h.marked hc (hsub hd)
  rcases List.mem_cons.mp hc with rfl | hc
  · simp at hd
  rcases List.mem_cons.mp hc with rfl | hc
  · have hquote := h.isQuote_quote
    simp only [List.mem_cons, List.not_mem_nil, or_false] at hd
    rcases hd with rfl | rfl | rfl <;> cases hquote
  · have hsub : ['<', '\r', '\n'] ⊆ ['"', '\'', '<', '\r', '\n'] := by simp
    exact h.typed_text hc (hsub hd)

end TypedValue

end MarkupAssist
