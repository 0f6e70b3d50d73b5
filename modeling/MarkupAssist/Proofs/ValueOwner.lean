import MarkupAssist.Cursor.Context
import MarkupAssist.Proofs.Lines
import MarkupAssist.Proofs.OpenValue

/-!
# The owner of an open value

Inside an open value three readers look at the cursor line. The automaton finds the
quote that is open. The name of the value's owner is looked for by a search in the
word that the quote stands in, and if that finds nothing, between the last gap and
an equals sign. The automaton passes over blanks around the equals sign and over
quotes of the other kind; the two searches do not.

* `ValueLine`: the cursor line of an open value, with its owner.
* `ReadFromWord`, `ReadFromGap`: what the two searches need to find the owner.
* `attributeBefore?_of_readFromWord`, `readFromWord_of_attributeBefore?`: the search
  in the word finds the owner or nothing.
* `attributeAround?_eq_some_iff`: the search behind the gap finds the owner or
  something else.

`context_of_openValue` says when the context names the owner, and
`context_other_owner` shows lines on which it does not. The second search stops at
any equals sign and the first one at any quoted assignment, so the two conditions
are exact on a line whose only equals sign around the cursor is the owner's.
-/

namespace MarkupAssist

open Text

namespace Cursor

/-- The text behind the last gap. -/
def lastWord (cs : List Char) : List Char :=
  takeEndWhile (fun c => !isGap c) cs

/-- The parts of a cursor line on which a value is open: a text, the name of the owner behind it,
the blanks on both sides of an equals sign, and the open quote. -/
structure ValueLine (lead name left right : List Char) (quote : Char) : Prop where
  lead_last : lead.getLast?.any isNameChar = false
  name_text : NameText name
  left_blank : ∀ c ∈ left, isBlank c = true
  right_blank : ∀ c ∈ right, isBlank c = true
  isQuote_quote : isQuote quote = true

/-- The word that the quote stands in shows the owner: nothing separates the name from the quote, no
other quote of the word follows an equals sign, no quote stands twice, and none stands behind a gap
of the value. -/
structure ReadFromWord (lead left right : List Char) (quote : Char) (typed : List Char) :
    Prop where
  left_nil : left = []
  right_nil : right = []
  unassigned : ∀ q, isQuote q = true → ¬ ['=', q] <:+: lastWord lead
  once : ∀ q, isQuote q = true → (lastWord lead ++ quote :: typed).count q ≤ 1
  before_gap : ∀ c ∈ typed.dropWhile fun c => !isGap c, isQuote c = false

/-- The text behind the last gap shows the owner: the gap stands in front of the name, with blanks
between them at most. -/
structure ReadFromGap (lead left right typed : List Char) : Prop where
  gap : ∃ c ∈ lead, isGap c = true
  word_blank : ∀ c ∈ lastWord lead, isBlank c = true
  noGap : ∀ c ∈ left ++ right ++ typed, isGap c = false

theorem lastWord_append {gap : Char} (hgap : isGap gap = true) {word : List Char}
    (hword : ∀ c ∈ word, isGap c = false) (front : List Char) :
    lastWord (front ++ gap :: word) = word := by
  rw [lastWord, List.append_cons]
  refine takeEndWhile_append (fun c hc => ?_) ?_
  · rw [hword c hc]
    rfl
  · rw [List.getLast?_concat, Option.any_some, hgap]
    rfl

/-- The last word ends where the text ends. -/
theorem getLast?_lastWord {lead : List Char} {p : Char → Bool}
    (h : lead.getLast?.any p = false) : (lastWord lead).getLast?.any p = false := by
  by_cases hnil : lastWord lead = []
  · rw [hnil]
    rfl
  · have hsplit : dropEndWhile (fun c => !isGap c) lead ++ lastWord lead = lead :=
      dropEndWhile_append_takeEndWhile _ lead
    rwa [← hsplit, List.getLast?_append_of_ne_nil _ hnil] at h

namespace ValueLine

variable {lead name left right typed : List Char} {quote : Char}
  (h : ValueLine lead name left right quote)

include h

theorem noGap_name : ∀ c ∈ name, isGap c = false :=
  fun c hc => isGap_of_isNameChar (h.name_text.chars c hc)

/-- The name and the equals sign right behind it are part of one word. -/
theorem word_assigned : ∀ c ∈ name ++ ([] ++ ['=']), (!isGap c) = true := by
  intro c hc
  rcases List.mem_append.mp hc with hc | hc
  · rw [h.noGap_name c hc]
    rfl
  · rw [List.mem_singleton.mp hc]
    rfl

/-! ### The search in a word -/

/-- Between the name and the open quote there is no other quote. -/
theorem count_assigned {q : Char} (hq : isQuote q = true) (word : List Char) :
    (word ++ (name ++ (left ++ '=' :: right)) ++ quote :: typed).count q =
      (word ++ quote :: typed).count q := by
  have hplain : ∀ c ∈ name ++ (left ++ '=' :: right), isQuote c = false := by
    intro c hc
    simp only [List.mem_append, List.mem_cons] at hc
    rcases hc with hc | hc | rfl | hc
    · exact isQuote_eq_false rfl rfl (h.name_text.chars c hc)
    · exact isQuote_eq_false rfl rfl (h.left_blank c hc)
    · rfl
    · exact isQuote_eq_false rfl rfl (h.right_blank c hc)
  rw [List.count_append, List.count_append, count_eq_zero_of_noQuote hplain hq, List.count_append,
    Nat.add_zero]

/-- The search finds the name if the word shows it. -/
theorem assignedName?_eq (hread : ∀ q, isQuote q = true → ¬ ['=', q] <:+: lastWord lead)
    (typed : List Char) :
    assignedName? [] (lastWord lead ++ (name ++ '=' :: quote :: typed)) = some name := by
  have hhead : (name ++ '=' :: quote :: typed).head?.any isQuote = false := by
    obtain ⟨c, cs, rfl⟩ := List.exists_cons_of_ne_nil h.name_text.ne_nil
    exact isQuote_eq_false rfl rfl (h.name_text.chars c List.mem_cons_self)
  rw [assignedName?_skip hread (getLast?_lastWord h.lead_last) hhead]
  have hmark : [] ∈ nameMarks := by simp [nameMarks]
  exact assignedName?_marked hmark h.name_text h.isQuote_quote typed

/-- The only equals sign in front of the open quote is the one of the owner. -/
theorem equals_unique (hword : '=' ∉ lastWord lead) {front back : List Char}
    (hsuffix : front ++ '=' :: back <:+ lastWord lead ++ (name ++ (left ++ '=' :: right))) :
    front <:+ lastWord lead ++ (name ++ left) ∧ back = right := by
  obtain ⟨more, hmore⟩ := hsuffix
  have hfree : '=' ∉ lastWord lead ++ (name ++ left) := by
    simp only [List.mem_append, not_or]
    exact ⟨hword, h.name_text.notMem (by decide),
      fun hmem => absurd (h.left_blank '=' hmem) (by decide)⟩
  have hsplit : lastWord lead ++ (name ++ left) ++ '=' :: right = more ++ front ++ '=' :: back := by
    rw [List.append_assoc more, hmore]
    simp
  obtain ⟨extra, hfront, hright⟩ := exists_of_append_eq hsplit hfree
  cases extra with
  | nil =>
    rw [List.append_nil] at hfront
    exact ⟨⟨more, hfront⟩, (List.cons.inj hright).2.symm⟩
  | cons c extra =>
    -- a second equals sign would be one of the blanks
    have hmem : '=' ∈ right := by
      rw [(List.cons.inj hright).2]
      simp
    exact absurd (h.right_blank '=' hmem) (by decide)

/-- If a name stands right in front of the equals sign and the quote, nothing separates them. -/
theorem eq_nil_of_assigned (hword : '=' ∉ lastWord lead) {front found : List Char}
    (hfound : NameText found) {back : List Char}
    (hsuffix : front ++ (found ++ '=' :: back) <:+
      lastWord lead ++ (name ++ (left ++ '=' :: right))) : left = [] ∧ back = right := by
  rw [← List.append_assoc] at hsuffix
  obtain ⟨⟨more, hmore⟩, hback⟩ := h.equals_unique hword hsuffix
  refine ⟨?_, hback⟩
  rcases List.eq_nil_or_concat' left with rfl | ⟨most, c, rfl⟩
  · rfl
  · -- the last blank would be the last character of the name that was found
    obtain ⟨start, d, rfl⟩ := (List.eq_nil_or_concat' found).resolve_left hfound.ne_nil
    have hlast := congrArg List.getLast? hmore
    simp only [← List.append_assoc, List.getLast?_concat] at hlast
    have hc : isNameChar c = true := Option.some.inj hlast ▸ hfound.chars d (by simp)
    rw [isNameChar_of_isBlank (h.left_blank c (by simp))] at hc
    cases hc

/-- A name that is found in front of an equals sign and a quote is found at the open quote. -/
theorem eq_nil_of_found (hword : '=' ∉ lastWord lead) (hequals : '=' ∉ typed)
    {token front found rest : List Char} {mark : Char} (hmark : isQuote mark = true)
    (hfound : NameText found)
    (htoken : token <:+ lastWord lead ++ (name ++ (left ++ '=' :: right)))
    (hsplit : token ++ quote :: typed = front ++ (found ++ '=' :: mark :: rest)) :
    left = [] ∧ right = [] := by
  have hsplit' : token ++ quote :: typed = front ++ found ++ '=' :: mark :: rest := by
    rw [hsplit, List.append_assoc]
  rcases List.append_eq_append_iff.mp hsplit' with ⟨more, -, hmore⟩ | ⟨more, heq, hmore⟩
  · -- the sign would stand behind the open quote
    have hmem : '=' ∈ quote :: typed := by
      rw [hmore]
      simp
    rcases List.mem_cons.mp hmem with rfl | hmem
    · exact absurd h.isQuote_quote (by decide)
    · exact absurd hmem hequals
  · cases more with
    | nil =>
      obtain ⟨rfl, -⟩ := List.cons.inj hmore
      exact absurd h.isQuote_quote (by decide)
    | cons c back =>
      obtain ⟨rfl, hback⟩ := List.cons.inj hmore
      rw [heq, List.append_assoc] at htoken
      obtain ⟨hleft, rfl⟩ := h.eq_nil_of_assigned hword hfound htoken
      refine ⟨hleft, ?_⟩
      cases back with
      | nil => rfl
      | cons c back =>
        -- a blank is no quote
        obtain ⟨rfl, -⟩ := List.cons.inj hback
        rw [isQuote_eq_false rfl rfl (h.right_blank mark List.mem_cons_self)] at hmark
        cases hmark

/-- **If the search in the word finds a name at all, the word shows the owner.** -/
theorem readFromWord_of_assignedName? (hword : '=' ∉ lastWord lead) (hequals : '=' ∉ typed)
    {found : List Char}
    (hquoted : hasQuoted (assignmentFragment
      (lead ++ (name ++ (left ++ '=' :: right)) ++ quote :: typed)) = false)
    (hfound : assignedName? [] (assignmentFragment
      (lead ++ (name ++ (left ++ '=' :: right)) ++ quote :: typed)) = some found) :
    ReadFromWord lead left right quote typed := by
  obtain ⟨front, mark, rest, hfragment, hmark, hname⟩ := exists_of_assignedName? (by simp) hfound
  rw [List.reverse_nil, List.nil_append] at hfragment
  by_cases hhidden : ∃ c ∈ typed.dropWhile fun c => !isGap c, isQuote c = true
  · -- the equals sign in front of the name that was found would be one of the value
    have hmem : '=' ∈ typed := by
      rw [List.append_cons] at hfragment
      apply assignmentFragment_subset hhidden
      rw [hfragment]
      simp
    exact absurd hmem hequals
  have htyped : ∀ c ∈ typed.dropWhile fun c => !isGap c, isQuote c = false := by
    simpa using hhidden
  rw [assignmentFragment_open h.isQuote_quote htyped] at hquoted hfragment
  -- a gap in front of the equals sign cuts the word, so it is only a part of this one
  have htoken := takeEndWhile_append_suffix (fun c => !isGap c) lead
    (name ++ (left ++ '=' :: right))
  obtain ⟨rfl, rfl⟩ := h.eq_nil_of_found hword hequals hmark hname htoken hfragment
  rw [takeEndWhile_append_of_pos h.word_assigned, hasQuoted_eq_false_iff] at hquoted
  refine ⟨rfl, rfl, fun q _ hpair => ?_, fun q hq => ?_, htyped⟩
  · exact hword (hpair.subset List.mem_cons_self)
  · rw [← h.count_assigned hq]
    exact hquoted q hq

/-! ### The search behind a gap -/

/-- Blanks around the name do not change what is read, anything else does. -/
theorem trim_assigned_iff {gap : Char} (hgap : isGap gap = true) (word : List Char) :
    trim (gap :: (word ++ (name ++ left))) = name ↔ ∀ c ∈ word, isBlank c = true := by
  have hblank : ∀ c ∈ name, isBlank c = false :=
    fun c hc => isBlank_of_isNameChar (h.name_text.chars c hc)
  have hlast : name.getLast?.any isBlank = false := by
    rw [Option.any_eq_false]
    exact fun c hc => by simpa using hblank c (List.mem_of_getLast? hc)
  have hleft : dropEndWhile isBlank left = [] := by
    rw [dropEndWhile, List.reverse_eq_nil_iff, List.dropWhile_eq_nil_iff]
    exact fun c hc => h.left_blank c (List.mem_reverse.mp hc)
  rw [trim, List.dropWhile_cons_of_pos (isBlank_of_isGap hgap), ← List.dropWhile_eq_nil_iff]
  cases hword : word.dropWhile isBlank with
  | nil =>
    have hall := List.dropWhile_eq_nil_iff.mp hword
    rw [List.dropWhile_append_of_pos hall, dropWhile_append_eq_self h.name_text.ne_nil hblank,
      dropEndWhile_append hlast, hleft, List.append_nil]
    simp
  | cons c rest =>
    -- what is left of the word makes the text too long for the name
    have hsplit : (word ++ (name ++ left)).dropWhile isBlank = (c :: (rest ++ name)) ++ left := by
      rw [List.dropWhile_append, if_neg (by simp [hword]), hword]
      simp
    have hlast' : (c :: (rest ++ name)).getLast?.any isBlank = false := by
      rwa [← List.cons_append, List.getLast?_append_of_ne_nil _ h.name_text.ne_nil]
    rw [hsplit, dropEndWhile_append hlast', hleft, List.append_nil]
    constructor
    · intro heq
      have hlength := congrArg List.length heq
      rw [List.length_cons, List.length_append] at hlength
      omega
    · intro heq
      cases heq

theorem equals_notMem (hequals : '=' ∉ typed) : '=' ∉ right ++ quote :: typed := by
  intro hmem
  rcases List.mem_append.mp hmem with hmem | hmem
  · exact absurd (h.right_blank '=' hmem) (by decide)
  rcases List.mem_cons.mp hmem with rfl | hmem
  · exact absurd h.isQuote_quote (by decide)
  · exact hequals hmem

/-- The search finds the text between the last gap and the equals sign if the gap shows the
owner. -/
theorem exists_nameFragment? (hequals : '=' ∉ typed) (hread : ReadFromGap lead left right typed)
    (after : List Char) :
    ∃ gap, isGap gap = true ∧
      nameFragment? (lead ++ (name ++ (left ++ '=' :: right)) ++ quote :: typed) after =
        some (gap :: (lastWord lead ++ (name ++ left))) := by
  obtain ⟨hgaps, -, hnogap⟩ := hread
  obtain ⟨most, gap, word, rfl, hgap, hword⟩ := exists_last hgaps
  have hassigned : ∀ c ∈ word ++ (name ++ left), isGap c = false := by
    intro c hc
    simp only [List.mem_append] at hc
    rcases hc with hc | hc | hc
    · exact hword c hc
    · exact h.noGap_name c hc
    · exact hnogap c (by simp [hc])
  have htyped : ∀ c ∈ right ++ quote :: typed, isGap c = false := by
    intro c hc
    rcases List.mem_append.mp hc with hc | hc
    · exact hnogap c (by simp [hc])
    rcases List.mem_cons.mp hc with rfl | hc
    · exact isGap_of_isQuote h.isQuote_quote
    · exact hnogap c (by simp [hc])
  refine ⟨gap, hgap, ?_⟩
  have hsplit : most ++ gap :: word ++ (name ++ (left ++ '=' :: right)) ++ quote :: typed =
      most ++ gap :: (word ++ (name ++ left) ++ '=' :: (right ++ quote :: typed)) := by
    simp
  rw [lastWord_append hgap hword, hsplit]
  exact nameFragment?_behind hgap hassigned htyped (h.equals_notMem hequals) after

/-- What the search finds reaches from the last gap to the equals sign of the owner. -/
theorem exists_of_nameFragment? (hequals : '=' ∉ typed) {after : List Char} (hafter : '=' ∉ after)
    {fragment : List Char} (hfragment : nameFragment?
      (lead ++ (name ++ (left ++ '=' :: right)) ++ quote :: typed) after = some fragment) :
    ∃ front gap token, fragment = gap :: token ∧ isGap gap = true ∧
      (∀ c ∈ token, isGap c = false) ∧ (∀ c ∈ right ++ quote :: typed, isGap c = false) ∧
      front ++ gap :: token = lead ++ (name ++ left) := by
  obtain ⟨front, gap, token, behind, hsplit, hfound, hgap, hnogap, hbehind⟩ :=
    exists_of_nameFragment?_eq_some hafter hfragment
  have hsame : front ++ gap :: token = lead ++ (name ++ left) ∧
      behind = right ++ quote :: typed := by
    refine append_cons_unique_last hbehind (h.equals_notMem hequals) ?_
    rw [List.append_assoc, List.cons_append, ← hsplit]
    simp
  refine ⟨front, gap, token, hfound, hgap, fun c hc => ?_, fun c hc => ?_, hsame.1⟩
  · exact hnogap c (List.mem_append_left _ hc)
  · exact hnogap c (List.mem_append_right _ (List.mem_cons_of_mem _ (hsame.2 ▸ hc)))

/-- **If the search behind a gap finds the owner, the gap shows it.** -/
theorem readFromGap_of_nameFragment? (hequals : '=' ∉ typed) {after : List Char}
    (hafter : '=' ∉ after) {fragment : List Char} (hfragment : nameFragment?
      (lead ++ (name ++ (left ++ '=' :: right)) ++ quote :: typed) after = some fragment)
    (htrim : trim fragment = name) : ReadFromGap lead left right typed := by
  obtain ⟨front, gap, token, rfl, hgap, htoken, htyped, hsplit⟩ :=
    h.exists_of_nameFragment? hequals hafter hfragment
  have hrun : token = takeEndWhile (fun c => !isGap c) (lead ++ (name ++ left)) := by
    rw [← hsplit]
    exact (lastWord_append hgap htoken front).symm
  by_cases hleft : ∀ c ∈ left, isGap c = false
  · have hassigned : ∀ c ∈ name ++ left, (!isGap c) = true := by
      intro c hc
      rcases List.mem_append.mp hc with hc | hc
      · rw [h.noGap_name c hc]
        rfl
      · rw [hleft c hc]
        rfl
    rw [takeEndWhile_append_of_pos hassigned] at hrun
    subst hrun
    have hlead : front ++ gap :: lastWord lead = lead := by
      rw [← List.cons_append, ← List.append_assoc] at hsplit
      exact List.append_cancel_right hsplit
    refine ⟨⟨gap, ?_, hgap⟩, (h.trim_assigned_iff hgap _).mp htrim, fun c hc => ?_⟩
    · rw [← hlead]
      simp
    · simp only [List.mem_append] at hc
      rcases hc with (hc | hc) | hc
      · exact hleft c hc
      · exact htyped c (List.mem_append_left _ hc)
      · exact htyped c (List.mem_append_right _ (List.mem_cons_of_mem _ hc))
  · -- behind a gap in front of the equals sign there is no name
    obtain ⟨c, hc, hcgap⟩ : ∃ c ∈ left, isGap c = true := by simpa using hleft
    rw [← List.append_assoc, takeEndWhile_append_of_mem hc (by simp [hcgap])] at hrun
    have hblank : ∀ d ∈ gap :: token, isBlank d = true := by
      rintro d (_ | ⟨_, hd⟩)
      · exact isBlank_of_isGap hgap
      · exact h.left_blank d (takeEndWhile_subset _ _ (hrun ▸ hd))
    rw [trim, List.dropWhile_eq_nil_iff.mpr hblank] at htrim
    exact absurd htrim.symm h.name_text.ne_nil

end ValueLine

end Cursor

/-! ### The two searches together -/

open Cursor

namespace Document

variable {doc : Document} {p : Position} {lead name left right typed : List Char}
  {quote : Char} (h : ValueLine lead name left right quote)
  (hbefore : doc.textBefore p = lead ++ (name ++ (left ++ '=' :: right)) ++ quote :: typed)

include h hbefore

theorem attributeBefore?_of_readFromWord (hread : ReadFromWord lead left right quote typed) :
    doc.attributeBefore? p = some (String.ofList name) := by
  obtain ⟨rfl, rfl, hunassigned, honce, htyped⟩ := hread
  have hfragment : assignmentFragment (doc.textBefore p) =
      lastWord lead ++ (name ++ ([] ++ ['='])) ++ quote :: typed := by
    rw [hbefore, assignmentFragment_open h.isQuote_quote htyped,
      takeEndWhile_append_of_pos h.word_assigned]
    rfl
  have hquoted :
      hasQuoted (lastWord lead ++ (name ++ ([] ++ ['='])) ++ quote :: typed) = false := by
    rw [hasQuoted_eq_false_iff]
    intro q hq
    rw [h.count_assigned hq]
    exact honce q hq
  have hname : assignedName? [] (lastWord lead ++ (name ++ ([] ++ ['='])) ++ quote :: typed) =
      some name := by
    have hfound := h.assignedName?_eq hunassigned typed
    simpa using hfound
  rw [attributeBefore?, hfragment, hquoted, hname]
  rfl

theorem readFromWord_of_attributeBefore? (hword : '=' ∉ lastWord lead) (hequals : '=' ∉ typed)
    {found : String} (hfound : doc.attributeBefore? p = some found) :
    ReadFromWord lead left right quote typed := by
  simp only [attributeBefore?, hbefore] at hfound
  split at hfound
  · cases hfound
  · next hquoted =>
    obtain ⟨chars, hchars, -⟩ := Option.map_eq_some_iff.mp hfound
    exact h.readFromWord_of_assignedName? hword hequals (by simpa using hquoted) hchars

theorem attributeAround?_eq_some_iff (hequals : '=' ∉ typed) (hafter : '=' ∉ doc.textAfter p) :
    doc.attributeAround? p = some (String.ofList name) ↔ ReadFromGap lead left right typed := by
  constructor
  · intro haround
    simp only [attributeAround?, hbefore] at haround
    split at haround
    · cases haround
    · next fragment hfragment =>
      split at haround
      · cases haround
      · exact h.readFromGap_of_nameFragment? hequals hafter hfragment
          (String.ofList_injective (Option.some.inj haround))
  · intro hread
    obtain ⟨gap, hgap, hfragment⟩ := h.exists_nameFragment? hequals hread (doc.textAfter p)
    have htrim := (h.trim_assigned_iff hgap _).mpr hread.word_blank
    have hopen : '<' ∉ gap :: (lastWord lead ++ (name ++ left)) := by
      intro hmem
      simp only [List.mem_cons, List.mem_append] at hmem
      rcases hmem with rfl | hmem | hmem | hmem
      · cases hgap
      · exact absurd (hread.word_blank '<' hmem) (by decide)
      · exact h.name_text.notMem (by decide) hmem
      · exact absurd (h.left_blank '<' hmem) (by decide)
    simp only [attributeAround?, hbefore, hfragment, htrim]
    rw [if_neg]
    simpa [h.name_text.ne_nil] using hopen

/-- What the two searches find is the owner exactly if the word or the gap shows it. -/
theorem owner_eq_some_iff (hword : '=' ∉ lastWord lead) (hequals : '=' ∉ typed)
    (hafter : '=' ∉ doc.textAfter p) :
    (doc.attributeBefore? p).or (doc.attributeAround? p) = some (String.ofList name) ↔
      ReadFromWord lead left right quote typed ∨ ReadFromGap lead left right typed := by
  have haround := attributeAround?_eq_some_iff h hbefore hequals hafter
  constructor
  · intro howner
    cases hfound : doc.attributeBefore? p with
    | some found => exact Or.inl (readFromWord_of_attributeBefore? h hbefore hword hequals hfound)
    | none =>
      rw [hfound, Option.none_or] at howner
      exact Or.inr (haround.mp howner)
  · intro hread
    by_cases hshown : ReadFromWord lead left right quote typed
    · rw [attributeBefore?_of_readFromWord h hbefore hshown, Option.some_or]
    · -- the first search finds nothing, and leaves the answer to the second
      have hnone : doc.attributeBefore? p = none := by
        rw [Option.eq_none_iff_forall_ne_some]
        exact fun found hfound =>
          hshown (readFromWord_of_attributeBefore? h hbefore hword hequals hfound)
      rw [hnone, Option.none_or]
      exact haround.mpr (hread.resolve_left hshown)

end Document

/-! ### The context -/

/-- Inside an open value the context is what the two searches find. -/
theorem Document.context_eq_attributeValue_iff {doc : Document} {p : Position} {o : OpenQuote}
    (hquote : doc.valueQuote? p = some o) {tag : String} (htag : doc.enclosingTag? p = some tag)
    {name : String} :
    doc.context p = .attributeValue tag name ↔
      (doc.attributeBefore? p).or (doc.attributeAround? p) = some name := by
  cases hline : doc.line? p.line with
  | none =>
    -- past the last line there is no text in front of the cursor
    rw [valueQuote?, textBefore, lineText, hline, Option.getD_none, List.take_nil] at hquote
    cases hquote
  | some line =>
    have hbefore := textBefore_clamp hline
    have hafter := textAfter_clamp hline
    have henclosing : doc.enclosingTag? (doc.clamp p) = some tag := by
      rw [← htag, enclosingTag?, clamp_clamp hline, enclosingTag?]
    have howner : (doc.attributeBefore? (doc.clamp p)).or (doc.attributeAround? (doc.clamp p)) =
        (doc.attributeBefore? p).or (doc.attributeAround? p) := by
      rw [attributeBefore?, attributeAround?, hbefore, hafter, attributeBefore?, attributeAround?]
    have hvalue : doc.valueContext? (doc.clamp p) =
        ((doc.attributeBefore? p).or (doc.attributeAround? p)).map fun name => (tag, name) := by
      rw [valueQuote?, ← hbefore] at hquote
      rw [valueContext?, valueQuote?, hquote, henclosing, howner]
      cases (doc.attributeBefore? p).or (doc.attributeAround? p) <;> rfl
    simp only [context, hvalue]
    cases (doc.attributeBefore? p).or (doc.attributeAround? p) with
    | some found => simp
    | none =>
      -- the other questions have answers of other kinds
      simp only [Option.map_none]
      constructor
      · intro hcontext
        split at hcontext
        · cases hcontext
        · split at hcontext <;> cases hcontext
      · intro hname
        cases hname

/-- **When the context of an open value names its owner.** The owner is the name in front of the
equals sign in front of the open quote. It is named if the word that the quote stands in shows it;
and if no other equals sign stands in that word, in the value or behind the cursor, it is named
exactly if that word or the last gap shows it. -/
theorem context_of_openValue {doc : Document} {p : Position} {i : Nat} {quote : Char}
    (hquote : doc.valueQuote? p = some ⟨i, quote⟩) {tag : String}
    (htag : doc.enclosingTag? p = some tag) {lead name left right typed : List Char}
    (hfront : (doc.textBefore p).take i = lead ++ (name ++ (left ++ '=' :: right)))
    (hname : NameText name) (hlead : lead.getLast?.any isNameChar = false)
    (hleft : ∀ c ∈ left, isBlank c = true) (hright : ∀ c ∈ right, isBlank c = true)
    (htyped : (doc.textBefore p).drop (i + 1) = typed) :
    (ReadFromWord lead left right quote typed →
      doc.context p = .attributeValue tag (String.ofList name)) ∧
    ('=' ∉ lastWord lead → '=' ∉ typed → '=' ∉ doc.textAfter p →
      (doc.context p = .attributeValue tag (String.ofList name) ↔
        ReadFromWord lead left right quote typed ∨ ReadFromGap lead left right typed)) := by
  obtain ⟨front, rest, hbefore, hindex, hisQuote, -⟩ := exists_of_openQuote? hquote
  have hline : ValueLine lead name left right quote := ⟨hlead, hname, hleft, hright, hisQuote⟩
  have hcontext := @Document.context_eq_attributeValue_iff _ _ _ hquote _ htag (String.ofList name)
  have hsplit : doc.textBefore p = lead ++ (name ++ (left ++ '=' :: right)) ++ quote :: typed := by
    rw [← hfront, ← htyped, hbefore, show i = front.length from hindex, List.take_left]
    simp
  constructor
  · intro hread
    rw [hcontext, Document.attributeBefore?_of_readFromWord hline hsplit hread, Option.some_or]
  · intro hword hequals hafter
    rw [hcontext]
    exact Document.owner_eq_some_iff hline hsplit hword hequals hafter

/-- A line on which the value of a bound attribute is being typed. -/
def apostropheLine : Document :=
  ⟨"<f-row :label=\"it's ".toList, "vue"⟩

/-- An apostrophe in the value does no harm. -/
theorem context_apostropheLine :
    apostropheLine.valueQuote? ⟨0, 20⟩ = some ⟨14, '"'⟩ ∧
      apostropheLine.context ⟨0, 20⟩ = .attributeValue "f-row" "label" := by
  have hquote : apostropheLine.valueQuote? ⟨0, 20⟩ = some ⟨14, '"'⟩ := by decide +kernel
  have htag : apostropheLine.enclosingTag? ⟨0, 20⟩ = some "f-row" := by decide +kernel
  have hfront : (apostropheLine.textBefore ⟨0, 20⟩).take 14 =
      "<f-row :".toList ++ ("label".toList ++ ([] ++ ['='])) := by
    decide +kernel
  have hname : NameText "label".toList := ⟨by decide, List.all_eq_true.mp rfl⟩
  have htyped : (apostropheLine.textBefore ⟨0, 20⟩).drop (14 + 1) = "it's ".toList := by
    decide +kernel
  have hread : ReadFromWord "<f-row :".toList [] [] '"' "it's ".toList := by
    have hword : lastWord "<f-row :".toList = [':'] := by decide +kernel
    have hbehind : "it's ".toList.dropWhile (fun c => !isGap c) = [' '] := by decide
    refine ⟨rfl, rfl, fun q _ hpair => ?_, fun q hq => ?_, fun c hc => ?_⟩
    · rw [hword] at hpair
      exact absurd hpair.length_le (Nat.not_succ_le_self 1)
    · rw [hword]
      rcases eq_of_isQuote hq with rfl | rfl <;> decide
    · rw [hbehind] at hc
      rw [List.mem_singleton.mp hc]
      rfl
  exact ⟨hquote, (context_of_openValue hquote htag hfront hname rfl (by simp) (by simp) htyped).1
    hread⟩

/-- A value in which a second assignment is written. -/
def nestedAssignment : Document :=
  ⟨"<f-button label=\"a b='".toList, "vue"⟩

/-- A value whose equals sign has a gap on both sides. -/
def spacedAssignment : Document :=
  ⟨"<f-button size = \"".toList, "vue"⟩

/-- A value of a bound attribute that is a quoted string. -/
def quotedExpression : Document :=
  ⟨"<f-button :size=\"'sm'".toList, "vue"⟩

/-- **The context of an open value can name another owner, or none.** The quotes that are open
belong to `label`, `size` and `size`. -/
theorem context_other_owner :
    (nestedAssignment.valueQuote? ⟨0, 22⟩ = some ⟨16, '"'⟩ ∧
      nestedAssignment.enclosingTag? ⟨0, 22⟩ = some "f-button" ∧
      (nestedAssignment.textBefore ⟨0, 22⟩).take 16 =
        "<f-button ".toList ++ ("label".toList ++ ([] ++ ['='])) ∧
      nestedAssignment.context ⟨0, 22⟩ = .attributeValue "f-button" "b") ∧
    (spacedAssignment.valueQuote? ⟨0, 18⟩ = some ⟨17, '"'⟩ ∧
      spacedAssignment.enclosingTag? ⟨0, 18⟩ = some "f-button" ∧
      (spacedAssignment.textBefore ⟨0, 18⟩).take 17 =
        "<f-button ".toList ++ ("size".toList ++ ([' '] ++ '=' :: [' '])) ∧
      spacedAssignment.context ⟨0, 18⟩ = .attributeName ⟨"f-button", 0⟩) ∧
    (quotedExpression.valueQuote? ⟨0, 21⟩ = some ⟨16, '"'⟩ ∧
      quotedExpression.enclosingTag? ⟨0, 21⟩ = some "f-button" ∧
      (quotedExpression.textBefore ⟨0, 21⟩).take 16 =
        "<f-button :".toList ++ ("size".toList ++ ([] ++ ['='])) ∧
      quotedExpression.context ⟨0, 21⟩ = .attributeValue "f-button" ":size") := by
  decide +kernel

end MarkupAssist
