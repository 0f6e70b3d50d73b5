import MarkupAssist.Proofs.NearestTag
import MarkupAssist.Proofs.TypingContext

/-!
# Typing on behind a bracket

Behind a bare `<` the walk up to an open tag stops at once, and the context is the start of a tag.
When the first character of the name is typed, the walk no longer stops there: it goes on to the
tags in front of the bracket. So the context stays the start of a tag only if nothing in front of
the bracket claims the cursor.

Each reader of the cursor line sees the same before and after a name is typed, whatever the name is:

* no quote is opened or closed (`openQuote?_append`), and the owner of an open value stays
  (`attributeBefore?_typed`, `attributeAround?_typed`);
* the tag between the brackets is named by what is typed, unless a closing tag without a name
  follows (`regionName_typed_eq_nil_iff`);
* no tag is opened or closed on the line (`openTags_open`, `endsAfterTag_open`).

`Document.TypesIntoValue` and `Document.TagsHidden` say what is in front of the bracket, and
`context_typedOn` that they decide. `context_leaves_tagStart` shows texts in which the context
changes.
-/

namespace MarkupAssist

open Text Cursor

namespace Cursor

/-! ### The quotes of the line -/

/-- Text without quotes changes nothing for the automaton. -/
theorem openQuote?_append {cs typed : List Char} (htyped : ∀ c ∈ typed, isQuote c = false) :
    openQuote? (cs ++ typed) = openQuote? cs := by
  cases hopen : openQuote? cs with
  | none =>
    rw [openQuote?, List.foldl_append]
    exact opened_foldl_balanced (Balanced.of_noQuote htyped) hopen
  | some o =>
    obtain ⟨-, -, -, -, hquote, -⟩ := exists_of_openQuote? hopen
    rw [openQuote?, List.foldl_append]
    refine opened_foldl_open (fun c hc => ?_) hopen
    rintro rfl
    rw [htyped _ hc] at hquote
    cases hquote

theorem hasQuoted_append (cs : List Char) {typed : List Char}
    (htyped : ∀ c ∈ typed, isQuote c = false) : hasQuoted (cs ++ typed) = hasQuoted cs := by
  rw [hasQuoted, List.count_append, List.count_append, count_eq_zero_of_noQuote htyped rfl,
    count_eq_zero_of_noQuote htyped rfl]
  rfl

/-- Text without quotes and gaps prolongs the word that is searched for a name. -/
theorem assignmentFragment_append (cs : List Char) {typed : List Char}
    (hquote : ∀ c ∈ typed, isQuote c = false) (hgap : ∀ c ∈ typed, isGap c = false) :
    assignmentFragment (cs ++ typed) = assignmentFragment cs ++ typed := by
  rw [assignmentFragment, splitLast?_append_right cs hquote, assignmentFragment]
  cases splitLast? isQuote cs with
  | some cut =>
    show takeEndWhile _ cut.1 ++ (cut.2 ++ typed) = takeEndWhile _ cut.1 ++ cut.2 ++ typed
    rw [List.append_assoc]
  | none =>
    have hword : ∀ c ∈ typed, (!isGap c) = true := fun c hc => by rw [hgap c hc]; rfl
    show takeEndWhile _ (cs ++ typed) ++ [] = takeEndWhile _ cs ++ [] ++ typed
    rw [takeEndWhile_append_of_pos hword, List.append_nil, List.append_nil]

/-- A name behind a bracket is no name in front of a value. -/
theorem assignedName?_open (run cs : List Char) {typed : List Char}
    (htyped : ∀ c ∈ typed, isNameChar c = true) :
    assignedName? run (cs ++ '<' :: typed) = assignedName? run (cs ++ ['<']) := by
  induction cs generalizing run with
  | nil =>
    -- the run ends at the bracket, and the next one at the cursor
    have hrun := assignedName?_run htyped [] []
    rw [List.append_nil] at hrun
    simp [assignedName?, hrun, show isNameChar '<' = false by decide]
  | cons c cs ih =>
    have hhead : (cs ++ '<' :: typed).head? = (cs ++ ['<']).head? := by cases cs <;> rfl
    rw [List.cons_append, List.cons_append, assignedName?, assignedName?, hhead, ih, ih]

/-! ### The name around the cursor -/

/-- What is read between the last gap and an equals sign does not depend on a name that is typed
behind a bracket, or it has the bracket in it. -/
theorem nameFragment?_open (front after : List Char) :
    (∃ found, ∀ typed : List Char, (∀ c ∈ typed, isNameChar c = true) →
      nameFragment? (front ++ '<' :: typed) after = found) ∨
    ∀ typed : List Char, (∀ c ∈ typed, isNameChar c = true) →
      ∀ fragment, nameFragment? (front ++ '<' :: typed) after = some fragment → '<' ∈ fragment := by
  have hgaps : ∀ typed : List Char, (∀ c ∈ typed, isNameChar c = true) →
      ∀ c ∈ '<' :: typed, isGap c = false := by
    rintro typed htyped c (_ | ⟨_, hc⟩)
    · rfl
    · exact isGap_of_isNameChar (htyped c hc)
  have hequals : ∀ typed : List Char, (∀ c ∈ typed, isNameChar c = true) →
      ∀ c ∈ '<' :: typed, (c == '=') = false := by
    rintro typed htyped c (_ | ⟨_, hc⟩)
    · rfl
    · exact beq_eq_false_iff_ne.mpr (ne_of_isNameChar (htyped c hc) (by decide))
  cases hgap : splitLast? isGap front with
  | none =>
    refine .inl ⟨none, fun typed htyped => ?_⟩
    rw [nameFragment?, splitLast?_append_right front (hgaps typed htyped), hgap]
    rfl
  | some cut =>
    obtain ⟨lead, token⟩ := cut
    cases hassigned : splitLast? (· == '=') token with
    | some found =>
      -- the last equals sign stands in front of the bracket
      refine .inl ⟨some found.1, fun typed htyped => ?_⟩
      simp only [nameFragment?, splitLast?_append_right front (hgaps typed htyped), hgap,
        Option.map_some, splitLast?_append_right token (hequals typed htyped), hassigned]
    | none =>
      -- the text goes on behind the cursor, and the bracket is a part of it
      refine .inr fun typed htyped fragment hfragment => ?_
      simp only [nameFragment?, splitLast?_append_right front (hgaps typed htyped), hgap,
        Option.map_some, splitLast?_append_right token (hequals typed htyped), hassigned,
        Option.map_none] at hfragment
      obtain ⟨cut, -, rfl⟩ := Option.map_eq_some_iff.mp hfragment
      simp

/-! ### The tag between the brackets -/

/-- A text up to a `>` in which the first closing tag has no name, and no separator stands. -/
def closesUnnamed (cs : List Char) : Bool :=
  !cs.any isSeparator &&
    (behindClosingMark? cs).any fun rest => (regionName (rest.takeWhile (· != '>'))).isEmpty

/-- A name at the start of a region is not lost. -/
theorem regionName_typed_ne_nil {typed : List Char} (htyped : NameText typed) (cs : List Char) :
    regionName (typed ++ cs) ≠ [] := by
  rw [regionName_name htyped]
  obtain ⟨c, rest, rfl⟩ := List.exists_cons_of_ne_nil htyped.ne_nil
  rw [List.cons_append, List.takeWhile_cons_of_pos]
  · exact List.cons_ne_nil _ _
  · exact inRegionName_of_isNameChar (htyped.chars c List.mem_cons_self)

/-- **The tag around the cursor is named by what is typed**, unless a closing tag without a name
follows. -/
theorem regionName_typed_eq_nil_iff {typed : List Char} (htyped : NameText typed)
    (cs : List Char) :
    regionName (nameRegion (typed ++ cs)) = [] ↔ closesUnnamed cs = true := by
  have hseparator : ∀ c ∈ typed, isSeparator c = false := fun c hc =>
    isSeparator_of_isNameChar (htyped.chars c hc)
  have hany : (typed ++ cs).any isSeparator = cs.any isSeparator := by
    rw [List.any_append, List.any_eq_false.mpr fun c hc => by simp [hseparator c hc],
      Bool.false_or]
  rw [nameRegion, hany, behindClosingMark?_name htyped, closesUnnamed]
  cases hsep : cs.any isSeparator with
  | true =>
    rw [if_pos rfl, List.takeWhile_append_of_pos fun c hc => by simp [hseparator c hc]]
    simp [regionName_typed_ne_nil htyped]
  | false =>
    rw [if_neg (by simp)]
    cases hmark : behindClosingMark? cs with
    | none =>
      have hend : ∀ c ∈ typed, (c != '>') = true := fun c hc => by
        simpa using ne_of_isNameChar (htyped.chars c hc) (show isNameChar '>' = false by decide)
      rw [Option.getD_none, List.takeWhile_append_of_pos hend]
      simp [regionName_typed_ne_nil htyped]
    | some rest => simp

/-! ### The tags of the line -/

/-- A name that is typed behind a bracket opens no tag on the line. -/
theorem openTags_open (front : List Char) {typed : List Char}
    (htyped : ∀ c ∈ typed, isNameChar c = true) :
    openTags false (front ++ '<' :: typed) = openTags false front := by
  induction front with
  | nil => exact openTags_typed List.not_mem_nil htyped
  | cons c front ih =>
    have hat : openTagAt? false (c :: (front ++ '<' :: typed)) = openTagAt? false (c :: front) := by
      by_cases hc : c = '<'
      · subst hc
        have hstop : ('<' :: typed).head?.any isNameChar = false := rfl
        rw [openTagAt?_open, openTagAt?_open, takeWhile_append_stop _ hstop,
          dropWhile_append_stop _ hstop]
        -- neither the bracket nor the end of the line ends a name
        cases front.dropWhile isNameChar <;> rfl
      · rw [openTagAt?_of_ne false hc, openTagAt?_of_ne false hc]
    rw [List.cons_append, openTags, hat, ih, openTags]

/-- Behind a closed tag a bracket with a name is a tail if only words and blanks stand in front of
it. -/
theorem isTagTail_open (front : List Char) {typed : List Char}
    (htyped : ∀ c ∈ typed, isNameChar c = true) :
    isTagTail (front ++ '<' :: typed) = front.all fun c => isBlank c || isWord c := by
  have hstop : ('<' :: typed).head?.any (fun c => isBlank c || isWord c) = false := rfl
  have hbracket : ∀ cs : List Char, (cs ++ '<' :: typed).all isNameChar = false := fun cs =>
    List.all_eq_false.mpr ⟨'<', by simp, by decide⟩
  rw [isTagTail, dropWhile_append_stop _ hstop]
  cases hrest : front.dropWhile fun c => isBlank c || isWord c with
  | nil =>
    rw [List.all_eq_true.mpr (List.dropWhile_eq_nil_iff.mp hrest)]
    exact List.all_eq_true.mpr fun c hc => htyped c ((List.dropWhile_sublist _).subset hc)
  | cons c rest =>
    have hall : (front.all fun c => isBlank c || isWord c) = false := by
      rw [← Bool.not_eq_true, List.all_eq_true, ← List.dropWhile_eq_nil_iff, hrest]
      exact List.cons_ne_nil _ _
    rw [hall, List.cons_append]
    split
    · next rest' heq =>
      obtain ⟨rfl, rfl⟩ := List.cons.inj heq
      -- the second bracket is no name character
      have hblank : ('<' :: typed).head?.any isBlank = false := rfl
      rw [dropWhile_append_stop _ hblank]
      exact hbracket _
    · exact hbracket (c :: rest)

theorem closesTag_open (front : List Char) {typed : List Char}
    (htyped : ∀ c ∈ typed, isNameChar c = true) :
    closesTag (front ++ '<' :: typed) = closesTag (front ++ ['<']) := by
  have hstop : ∀ cs : List Char,
      (('<' :: cs).head?.any fun c => c != '<' && c != '>') = false := fun _ => rfl
  have hstart : ∀ cs : List Char, startsName (cs ++ '<' :: typed) = startsName (cs ++ ['<']) := by
    intro cs
    cases cs <;> rfl
  have htail : ∀ cs : List Char, isTagTail (cs ++ '<' :: typed) = isTagTail (cs ++ ['<']) := by
    intro cs
    rw [isTagTail_open cs htyped, isTagTail_open cs (by simp)]
  simp only [closesTag, dropWhile_append_stop _ (hstop typed), dropWhile_append_stop _ (hstop [])]
  congr 1
  · cases front with
    | nil => rfl
    | cons c front =>
      by_cases hc : c = '/'
      · subst hc
        exact hstart front
      · simp only [List.cons_append]
        split
        · next heq => exact absurd (List.cons.inj heq).1 hc
        · split
          · next heq => exact absurd (List.cons.inj heq).1 hc
          · rfl
  · cases front.dropWhile fun c => c != '<' && c != '>' with
    | nil => rfl
    | cons c rest =>
      by_cases hc : c = '>'
      · subst hc
        exact htail rest
      · simp only [List.cons_append]
        split
        · next heq => exact absurd (List.cons.inj heq).1 hc
        · split
          · next heq => exact absurd (List.cons.inj heq).1 hc
          · rfl

/-- **A name that is typed behind a bracket does not change whether the line ends after a closed
tag.** -/
theorem endsAfterTag_open (front : List Char) {typed : List Char}
    (htyped : ∀ c ∈ typed, isNameChar c = true) :
    endsAfterTag (front ++ '<' :: typed) = endsAfterTag (front ++ ['<']) := by
  induction front with
  | nil =>
    have hend : '>' ∉ typed := notMem_of_nameChars htyped (by decide)
    have hopen : '<' ∉ typed := notMem_of_nameChars htyped (by decide)
    rw [List.nil_append, endsAfterTag, closesTag_of_notMem hend, endsAfterTag_of_noOpen hopen]
    rfl
  | cons c front ih =>
    rw [List.cons_append, List.cons_append, endsAfterTag, endsAfterTag, ih,
      closesTag_open front htyped]

theorem stopsAtCursor_open (front : List Char) {typed : List Char} (htyped : NameText typed) :
    stopsAtCursor (front ++ '<' :: typed) = endsAfterTag (front ++ ['<']) := by
  have hlast : ((front ++ '<' :: typed).getLast? == some '<') = false := by
    rw [List.append_cons, List.getLast?_append_of_ne_nil _ htyped.ne_nil, beq_eq_false_iff_ne]
    exact fun hmem => htyped.notMem (by decide) (List.mem_of_getLast? hmem)
  rw [stopsAtCursor, endsAfterTag_open front htyped.chars, endsAfterClose_of_mem (by simp), hlast,
    Bool.or_false, Bool.or_false]

end Cursor

/-! ### The attribute of an open value -/

section Owner

variable {doc typed : Document} {p q : Position} {front name : List Char}
  (hp : doc.textBefore p = front ++ ['<']) (hq : typed.textBefore q = front ++ '<' :: name)
  (hname : ∀ c ∈ name, isNameChar c = true)

include hp hq hname

theorem valueQuote?_typed : typed.valueQuote? q = doc.valueQuote? p := by
  have hquote : ∀ c ∈ name, isQuote c = false :=
    fun c hc => isQuote_eq_false rfl rfl (hname c hc)
  rw [Document.valueQuote?, Document.valueQuote?, hp, hq, List.append_cons,
    openQuote?_append hquote]

theorem attributeBefore?_typed : typed.attributeBefore? q = doc.attributeBefore? p := by
  have hplain : ∀ cs : List Char, (∀ c ∈ cs, isNameChar c = true) →
      ∀ c ∈ '<' :: cs, isQuote c = false ∧ isGap c = false := by
    rintro cs hcs c (_ | ⟨_, hc⟩)
    · exact ⟨rfl, rfl⟩
    · exact ⟨isQuote_eq_false rfl rfl (hcs c hc), isGap_of_isNameChar (hcs c hc)⟩
  -- the bracket belongs to the fragment, and the name prolongs it
  have hfragment : ∀ cs : List Char, (∀ c ∈ cs, isNameChar c = true) →
      assignmentFragment (front ++ '<' :: cs) = assignmentFragment front ++ '<' :: cs :=
    fun cs hcs => assignmentFragment_append front (fun c hc => (hplain cs hcs c hc).1)
      fun c hc => (hplain cs hcs c hc).2
  have hquoted : ∀ cs : List Char, (∀ c ∈ cs, isNameChar c = true) →
      hasQuoted (assignmentFragment front ++ '<' :: cs) = hasQuoted (assignmentFragment front) :=
    fun cs hcs => hasQuoted_append _ fun c hc => (hplain cs hcs c hc).1
  have hnil : ∀ c ∈ ([] : List Char), isNameChar c = true := by simp
  rw [Document.attributeBefore?, Document.attributeBefore?, hp, hq, hfragment name hname,
    hfragment [] hnil]
  simp only [hquoted name hname, hquoted [] hnil,
    assignedName?_open [] (assignmentFragment front) hname]

theorem attributeAround?_typed (hafter : typed.textAfter q = doc.textAfter p) :
    typed.attributeAround? q = doc.attributeAround? p := by
  -- a fragment with a bracket in it is no name
  have hrefused : ∀ (d : Document) (r : Position),
      (∀ fragment, nameFragment? (d.textBefore r) (d.textAfter r) = some fragment →
        '<' ∈ fragment) → d.attributeAround? r = none := by
    intro d r hbracket
    rw [Document.attributeAround?]
    split
    · rfl
    · next fragment hfragment =>
      have hmem : fragment.contains '<' = true :=
        List.contains_iff_mem.mpr (hbracket fragment hfragment)
      rw [if_pos (by rw [hmem, Bool.true_or])]
  rcases nameFragment?_open front (doc.textAfter p) with ⟨found, hfound⟩ | hbracket
  · rw [Document.attributeAround?, Document.attributeAround?, hafter, hp, hq, hfound name hname,
      hfound [] (by simp)]
  · rw [hrefused typed q (by rw [hafter, hq]; exact hbracket name hname),
      hrefused doc p (by rw [hp]; exact hbracket [] (by simp))]

end Owner

/-! ### Hidden tags -/

namespace Document

variable {doc : Document} {p : Position} {above : List (List Char)} {before after : List Char}

/-- **The walk up finds nothing** if each line that opens a tag, or a line that the walk passes
before it, ends after a closed tag. -/
theorem openTagAbove?_eq_none_iff {n : Nat} {lines : List (List Char)} :
    doc.openTagAbove? n lines = none ↔
      ∀ front line back, lines = front ++ line :: back → openTags true line ≠ [] →
        ∃ l ∈ front ++ [line], endsAfterTag l = true := by
  induction lines generalizing n with
  | nil => simp [openTagAbove?]
  | cons text lines ih =>
    rw [openTagAbove?]
    split
    · next hstop =>
      refine iff_of_true rfl fun front line back hsplit _ => ⟨text, ?_, hstop⟩
      cases front with
      | nil => simp [(List.cons.inj hsplit).1]
      | cons first front => simp [(List.cons.inj hsplit).1]
    · next hpass =>
      split
      · next token hfound =>
        refine iff_of_false (Option.some_ne_none token) fun hall => ?_
        have hopens : openTags true text ≠ [] := by
          intro hnil
          rw [tagToken?_eq_none_iff.mpr hnil] at hfound
          cases hfound
        obtain ⟨l, hl, hstop⟩ := hall [] text lines rfl hopens
        rw [List.mem_singleton.mp hl] at hstop
        exact hpass hstop
      · next hnone =>
        rw [ih]
        constructor
        · intro hall front line back hsplit hopens
          cases front with
          | nil =>
            obtain ⟨rfl, -⟩ := List.cons.inj hsplit
            exact absurd (tagToken?_eq_none_iff.mp hnone) hopens
          | cons first front =>
            obtain ⟨l, hl, hstop⟩ := hall front line back (List.cons.inj hsplit).2 hopens
            exact ⟨l, List.mem_cons_of_mem _ hl, hstop⟩
        · intro hall front line back hsplit hopens
          obtain ⟨l, hl, hstop⟩ := hall (text :: front) line back (by rw [hsplit]; rfl) hopens
          rcases List.mem_cons.mp hl with rfl | hl
          · exact absurd hstop hpass
          · exact ⟨l, hl, hstop⟩

/-- The text of a line, as far as it is in front of a position. -/
def textOn (doc : Document) (p : Position) (n : Nat) : List Char :=
  if n = p.line then doc.textBefore p else doc.lineText n

/-- No tag in front of a position is seen by the walk: of the lines from that of the tag to that of
the position, one ends after a closed tag. -/
def TagsHidden (doc : Document) (p : Position) : Prop :=
  ∀ place name, OpensTag (doc.textUntil p) place name →
    p.line < (doc.positionAt place).line + backwardLines →
    ∃ n, (doc.positionAt place).line ≤ n ∧ n ≤ p.line ∧ endsAfterTag (doc.textOn p n) = true

/-- A value is open at a position, the attribute that it belongs to is found, and so is the tag once
a name is typed. -/
structure TypesIntoValue (doc : Document) (p : Position) : Prop where
  opened : (doc.valueQuote? p).isSome = true
  owned : ((doc.attributeBefore? p).or (doc.attributeAround? p)).isSome = true
  named : closesUnnamed (throughBracket (doc.textFrom p)) = false

namespace StandsAt

variable (h : doc.StandsAt p above before after)

include h

theorem textOn_cursor : doc.textOn p above.length = before := by
  rw [textOn, if_pos h.line_eq.symm, h.textBefore]

theorem textOn_above {upper lower : List (List Char)} {raw : List Char}
    (hsplit : above = upper ++ raw :: lower) : doc.textOn p upper.length = dropReturn raw := by
  have hne : upper.length ≠ p.line := by
    rw [h.line_eq, hsplit, List.length_append, List.length_cons]
    omega
  have hraw : doc.rawLines[upper.length]? = some raw := by
    rw [h.splits.rawLines, hsplit, List.append_assoc, List.getElem?_append_right (Nat.le_refl _),
      Nat.sub_self]
    rfl
  rw [textOn, if_neg hne, lineText, Document.line?, hraw]
  rfl

/-- The lines from some line above the cursor on, the cursor line included. -/
theorem exists_endsAfterTag_iff {upper below : List (List Char)} (hsplit : above = upper ++ below) :
    (∃ n, upper.length ≤ n ∧ n ≤ p.line ∧ endsAfterTag (doc.textOn p n) = true) ↔
      endsAfterTag before = true ∨ ∃ l ∈ below, endsAfterTag (dropReturn l) = true := by
  have hlength : above.length = upper.length + below.length := by
    rw [hsplit, List.length_append]
  rw [h.line_eq]
  constructor
  · rintro ⟨n, hfrom, hto, hends⟩
    rcases Nat.lt_or_eq_of_le hto with hlt | rfl
    · right
      have hn : n - upper.length < below.length := by omega
      have hline : above = (upper ++ below.take (n - upper.length)) ++
          below[n - upper.length] :: below.drop (n - upper.length + 1) := by
        rw [List.append_assoc, List.getElem_cons_drop, List.take_append_drop, hsplit]
      have hnumber : (upper ++ below.take (n - upper.length)).length = n := by
        rw [List.length_append, List.length_take]
        omega
      have htext := h.textOn_above hline
      rw [hnumber] at htext
      exact ⟨_, List.getElem_mem hn, htext ▸ hends⟩
    · left
      rwa [h.textOn_cursor] at hends
  · rintro (hends | ⟨l, hl, hends⟩)
    · exact ⟨above.length, by omega, Nat.le_refl _, by rwa [h.textOn_cursor]⟩
    · obtain ⟨front, back, rfl⟩ := List.append_of_mem hl
      have hline : above = (upper ++ front) ++ l :: back := by rw [hsplit, List.append_assoc]
      have htext := h.textOn_above hline
      refine ⟨(upper ++ front).length, ?_, ?_, by rwa [htext]⟩
      · rw [List.length_append]
        omega
      · rw [hlength, List.length_append, List.length_append]
        omega

/-- **Hidden tags are those that the walk does not find**, once the cursor line does not stop it for
another reason. -/
theorem tagsHidden_iff :
    doc.TagsHidden p ↔ endsAfterTag before = true ∨ openTags false before = [] ∧
      doc.openTagAbove? (above.length - 1)
        ((above.drop (above.length - (backwardLines - 1))).map dropReturn).reverse = none := by
  rw [TagsHidden, h.textUntil, openTagAbove?_eq_none_iff, or_iff_not_imp_left]
  constructor
  · intro hhidden hline
    constructor
    · rw [List.eq_nil_iff_forall_not_mem]
      rintro ⟨i, name⟩ hmem
      obtain ⟨htag, hposition⟩ := h.splits.opensTag_of_opensOn (.cursorLine hmem)
      have hreached : p.line < (doc.positionAt (doc.offsetAt ⟨above.length, i⟩)).line +
          backwardLines := by
        rw [hposition, h.line_eq]
        exact Nat.lt_add_of_pos_right (by decide)
      have hends := hhidden _ _ htag hreached
      rw [hposition, h.exists_endsAfterTag_iff (List.append_nil above).symm] at hends
      exact hline (hends.resolve_right (by simp))
    · intro front line back hlines hopens
      obtain ⟨upper, raw, lower, hsplit, rfl, rfl, hwindow⟩ := exists_of_reverse_drop hlines
      obtain ⟨⟨i, name⟩, hmem⟩ := List.exists_mem_of_ne_nil _ hopens
      obtain ⟨htag, hposition⟩ := h.splits.opensTag_of_opensOn (.lineAbove hsplit hmem)
      have hreached : p.line < (doc.positionAt (doc.offsetAt ⟨upper.length, i⟩)).line +
          backwardLines := by
        have hlength := congrArg List.length hsplit
        rw [List.length_append, List.length_cons] at hlength
        rw [hposition, h.line_eq]
        rw [backwardLines] at hwindow ⊢
        show above.length < upper.length + 10
        omega
      have hends := hhidden _ _ htag hreached
      rw [hposition, h.exists_endsAfterTag_iff hsplit] at hends
      obtain ⟨l, hl, hends⟩ := hends.resolve_left hline
      refine ⟨dropReturn l, ?_, hends⟩
      rcases List.mem_cons.mp hl with rfl | hl
      · exact List.mem_append_right _ List.mem_cons_self
      · exact List.mem_append_left _ (List.mem_reverse.mpr (List.mem_map_of_mem hl))
  · intro hwalk place name htag hwindow
    obtain ⟨q, hopens, rfl⟩ := h.splits.exists_opensOn htag
    rw [(h.splits.opensTag_of_opensOn hopens).2] at hwindow ⊢
    cases hopens with
    | cursorLine hmem =>
      rw [h.exists_endsAfterTag_iff (List.append_nil above).symm]
      left
      by_contra hline
      rw [(hwalk hline).1] at hmem
      cases hmem
    | @lineAbove upper lower raw _ _ hsplit hmem =>
      rw [h.exists_endsAfterTag_iff hsplit, or_iff_not_imp_left]
      intro hline
      have hcount : lower.length + 1 < backwardLines := by
        rw [h.line_eq, hsplit, List.length_append, List.length_cons] at hwindow
        simp only at hwindow
        omega
      obtain ⟨more, hlines⟩ := exists_reverse_drop upper raw hcount
      rw [← hsplit] at hlines
      obtain ⟨l, hl, hends⟩ := (hwalk hline).2 _ _ _ hlines (List.ne_nil_of_mem hmem)
      rcases List.mem_append.mp hl with hl | hl
      · obtain ⟨raw', hraw', rfl⟩ := List.mem_map.mp (List.mem_reverse.mp hl)
        exact ⟨raw', List.mem_cons_of_mem _ hraw', hends⟩
      · rw [List.mem_singleton.mp hl] at hends
        exact ⟨raw, List.mem_cons_self, hends⟩

end StandsAt

/-! ### The context behind a bracket -/

/-- What follows the cursor on its line is read from the text behind it alone, if the text in front
of it does not end with a carriage return. -/
theorem Splits.textAfter_eq (h : doc.Splits above before after)
    (hlast : before.getLast? ≠ some '\r') :
    doc.textAfter ⟨above.length, before.length⟩ = dropReturn (breakLines after).1 := by
  rw [h.textAfter, dropReturn_append fun _ => hlast, List.drop_left]

theorem Splits.enclosingTag?_eq_none_iff {front name : List Char}
    (h : doc.Splits above (front ++ '<' :: name) after) (hname : NameText name) :
    doc.enclosingTag? ⟨above.length, (front ++ '<' :: name).length⟩ = none ↔
      closesUnnamed (throughBracket after) = true := by
  have hcut : splitLast? (· == '<') (unlines above ++ (front ++ '<' :: name)) =
      some (unlines above ++ front, '<' :: name) := by
    rw [← List.append_assoc]
    refine splitLast?_append_cons (by decide) fun c hc => ?_
    simpa using ne_of_isNameChar (hname.chars c hc) (show isNameChar '<' = false by decide)
  rw [← regionName_typed_eq_nil_iff hname]
  simp only [enclosingTag?, h.clamp, h.textUntil, h.textFrom, hcut, List.tail_cons]
  simp

/-- A tag name that is being typed is the start of a tag if nothing in front of it claims the
cursor. -/
theorem Splits.context_typed_iff {front name : List Char}
    (h : doc.Splits above (front ++ '<' :: name) after) (hname : NameText name) :
    doc.context ⟨above.length, (front ++ '<' :: name).length⟩ = .tagStart (String.ofList name) ↔
      doc.valueContext? ⟨above.length, (front ++ '<' :: name).length⟩ = none ∧
        (endsAfterTag (front ++ ['<']) = true ∨ openTags false (front ++ ['<']) = [] ∧
          doc.openTagAbove? (above.length - 1)
            ((above.drop (above.length - (backwardLines - 1))).map dropReturn).reverse = none) := by
  have htyped : typedTag? (front ++ '<' :: name) = some name :=
    typedTag?_eq_some_iff.mpr ⟨front, rfl, hname.chars⟩
  have hline : openTags false (front ++ '<' :: name) = openTags false (front ++ ['<']) := by
    rw [openTags_open front hname.chars, openTags_open front (by simp)]
  rw [h.context_eq_tagStart_iff, h.openTag?_eq, stopsAtCursor_open front hname, hline,
    and_iff_left htyped]
  refine and_congr_right fun _ => ?_
  split
  · next hends => exact iff_of_true rfl (.inl hends)
  · next hends => rw [Option.or_eq_none_iff, tagToken?_eq_none_iff, or_iff_right hends]

/-! ### Typing a name -/

theorem insertAt_nil (doc : Document) (place : Nat) : doc.insertAt place [] = doc := by
  rw [insertAt, List.nil_append, List.take_append_drop]

/-- A name that is typed behind a bracket makes a longer cut. -/
theorem Splits.insertAt {front name : List Char} (h : doc.Splits above (front ++ ['<']) after)
    (hname : ∀ c ∈ name, isNameChar c = true) :
    (doc.insertAt (unlines above ++ (front ++ ['<'])).length name).Splits above
      (front ++ '<' :: name) after := by
  have hchars : doc.chars = unlines above ++ (front ++ ['<']) ++ after := by
    rw [h.chars, ← List.append_assoc]
  refine splits_of_chars ?_ h.above_lines ?_ fun _ => getLast?_open front hname
  · rw [chars_insertAt hchars]
    simp
  · have hfront : '\n' ∉ front := fun hmem => h.before_line (List.mem_append_left _ hmem)
    simp [hfront, notMem_of_nameChars hname (show isNameChar '\n' = false by decide)]

/-- **Typing a name leaves the owner of an open value as it is**, and names the tag. -/
theorem StandsAt.valueContext?_typed {front name : List Char} {typed : Document}
    (h : doc.StandsAt p above (front ++ ['<']) after)
    (ht : typed.Splits above (front ++ '<' :: name) after) (hname : NameText name) :
    typed.valueContext? ⟨above.length, (front ++ '<' :: name).length⟩ = none ↔
      ¬ doc.TypesIntoValue p := by
  have hafter : typed.textAfter ⟨above.length, (front ++ '<' :: name).length⟩ =
      doc.textAfter p := by
    rw [ht.textAfter_eq (getLast?_open front hname.chars), h.textAfter,
      h.splits.textAfter_eq (getLast?_open front (by simp))]
  rw [valueContext?_eq_none_iff, valueQuote?_typed h.textBefore ht.textBefore hname.chars,
    attributeBefore?_typed h.textBefore ht.textBefore hname.chars,
    attributeAround?_typed h.textBefore ht.textBefore hname.chars hafter,
    ht.enclosingTag?_eq_none_iff hname, ← h.textFrom]
  constructor
  · rintro (hclosed | hunnamed | hunowned) hvalue
    · exact absurd hvalue.opened (by rw [hclosed]; simp)
    · exact absurd hvalue.named (by rw [hunnamed]; simp)
    · exact absurd hvalue.owned (by rw [hunowned]; simp)
  · intro hvalue
    by_contra hnone
    rw [not_or, not_or] at hnone
    exact hvalue ⟨Option.isSome_iff_ne_none.mpr hnone.1, Option.isSome_iff_ne_none.mpr hnone.2.2,
      (Bool.not_eq_true _).mp hnone.2.1⟩

/-- Behind the last carriage return a name does not stand behind the bracket. -/
theorem StandsAt.context_typed_pastReturn {cursor : Position} {front name : List Char}
    (h : doc.StandsAt (doc.clamp cursor) above (front ++ ['<']) after)
    (hpast : doc.PastReturn cursor) (hname : NameText name) :
    let typed := doc.insertAt (doc.offsetAt cursor) name
    typed.context (typed.positionAt (doc.offsetAt cursor + name.length)) ≠
      .tagStart (String.ofList name) := by
  intro typed hcontext
  -- the return stays between the bracket and the name
  have hchars : doc.chars = unlines above ++ (front ++ ['<', '\r']) := by
    rw [h.splits.chars, h.after_eq hpast, List.append_assoc]
    rfl
  have htyped : typed.Splits above (front ++ '<' :: '\r' :: name) [] := by
    refine splits_of_chars ?_ h.splits.above_lines ?_ fun _ => ?_
    · show (doc.insertAt (doc.offsetAt cursor) name).chars = _
      rw [hpast.offsetAt, chars_insertAt (List.append_nil _).symm, hchars]
      simp
    · have hfront : '\n' ∉ front := fun hmem => h.splits.before_line (List.mem_append_left _ hmem)
      simp [hfront, notMem_of_nameChars hname.chars (show isNameChar '\n' = false by decide)]
    · rw [List.append_cons, List.append_cons, List.getLast?_append_of_ne_nil _ hname.ne_nil]
      exact fun hmem => hname.notMem (by decide) (List.mem_of_getLast? hmem)
  have hposition : typed.positionAt (doc.offsetAt cursor + name.length) =
      ⟨above.length, (front ++ '<' :: '\r' :: name).length⟩ := by
    rw [← htyped.positionAt, hpast.offsetAt, hchars, ← List.length_append]
    simp
  rw [hposition, htyped.context_eq_tagStart_iff] at hcontext
  obtain ⟨front', hsplit, -⟩ := typedTag?_eq_some_iff.mp hcontext.2.2
  rw [List.append_cons] at hsplit
  exact absurd (List.append_inj' hsplit rfl).2 (by simp)

end Document

/-- **A name that is typed behind a bracket** keeps the context of a tag start exactly if no value
is open at the bracket and no tag in front of it is seen by the walk. A cursor behind a carriage
return at the end of the text does not keep it either. -/
theorem context_typedOn {doc : Document} {cursor : Position}
    (hstart : doc.context cursor = .tagStart "") {name : List Char}
    (hname : ∀ c ∈ name, isNameChar c = true) :
    let typed := doc.insertAt (doc.offsetAt cursor) name
    typed.context (typed.positionAt (doc.offsetAt cursor + name.length)) =
        .tagStart (String.ofList name) ↔
      name = [] ∨ ¬ doc.PastReturn cursor ∧ ¬ doc.TypesIntoValue (doc.clamp cursor) ∧
        doc.TagsHidden (doc.clamp cursor) := by
  intro typed
  obtain ⟨above, before, after, hstands⟩ := doc.exists_standsAt_clamp cursor
  have hcontext := hstart
  rw [hstands.context_eq, ← String.ofList_nil, hstands.splits.context_eq_tagStart_iff] at hcontext
  obtain ⟨front, rfl, -⟩ := typedTag?_eq_some_iff.mp hcontext.2.2
  by_cases hnil : name = []
  · -- nothing is typed, and clamping the cursor once more changes nothing
    refine iff_of_true ?_ (.inl hnil)
    subst hnil
    show typed.context (typed.positionAt (doc.offsetAt cursor)) = _
    rw [show typed = doc from doc.insertAt_nil _, doc.positionAt_offsetAt, doc.context_clamp,
      hstart]
  have hname' : NameText name := ⟨hnil, hname⟩
  rw [or_iff_right hnil]
  by_cases hpast : doc.PastReturn cursor
  · exact iff_of_false (hstands.context_typed_pastReturn hpast hname') fun h => h.1 hpast
  have hoffset : doc.offsetAt cursor = (unlines above ++ (front ++ ['<'])).length := by
    rw [← Document.offsetAt_clamp_eq hpast, hstands.offsetAt]
  have htyped : typed.Splits above (front ++ '<' :: name) after := by
    have hinsert := hstands.splits.insertAt hname
    rwa [← hoffset] at hinsert
  have hposition : typed.positionAt (doc.offsetAt cursor + name.length) =
      ⟨above.length, (front ++ '<' :: name).length⟩ := by
    rw [← htyped.positionAt, hoffset, ← List.length_append]
    simp
  rw [hposition, htyped.context_typed_iff hname', hstands.valueContext?_typed htyped hname',
    hstands.tagsHidden_iff, and_iff_right hpast, Document.openTagAbove?_eq_none_iff,
    Document.openTagAbove?_eq_none_iff]

/-- A closed tag on the line of a bracket. -/
def closedRow : Document :=
  ⟨"a\n<f-row wide>text <".toList, "vue"⟩

/-- Behind a closed tag on the same line the context stays the start of a tag. -/
theorem context_typedOn_closedRow :
    closedRow.context ⟨1, 40⟩ = .tagStart "" ∧
      (closedRow.insertAt 20 "f-b".toList).context
        ((closedRow.insertAt 20 "f-b".toList).positionAt 23) = .tagStart "f-b" := by
  have hstart : closedRow.context ⟨1, 40⟩ = .tagStart "" := by decide +kernel
  refine ⟨hstart, (context_typedOn hstart (List.all_eq_true.mp rfl)).mpr (.inr ⟨?_, ?_, ?_⟩)⟩
  · decide
  · intro hvalue
    exact absurd hvalue.opened (by decide +kernel)
  · -- the cursor line hides all that is in front of the bracket
    intro place name _ _
    refine ⟨1, Nat.le_of_lt_succ (closedRow.line_positionAt_lt place), ?_, ?_⟩
    · decide
    · decide +kernel

/-- **The first character of a name can change what the cursor is on**: a tag that is left open
above the bracket, one that is closed on another line than it is opened, and an open value. -/
theorem context_leaves_tagStart :
    (contextBetween "<f-div \n<".toList [] "html" = .tagStart "" ∧
      contextBetween "<f-div \n<f".toList [] "html" = .attributeName ⟨"f-div", 0⟩) ∧
    (contextBetween "<f-div\n  state=\"default\">\n  <".toList [] "html" = .tagStart "" ∧
      contextBetween "<f-div\n  state=\"default\">\n  <f".toList [] "html" =
        .attributeName ⟨"f-div", 0⟩) ∧
    (contextBetween "<a b=\"<".toList [] "html" = .tagStart "" ∧
      contextBetween "<a b=\"<f".toList [] "html" = .attributeValue "f" "b") := by
  decide +kernel

end MarkupAssist
