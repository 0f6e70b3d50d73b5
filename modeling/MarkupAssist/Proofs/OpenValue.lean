import Mathlib.Data.List.Induction
import MarkupAssist.Cursor.AttributeName
import MarkupAssist.Cursor.ValueQuote
import MarkupAssist.Proofs.CharacterClass
import MarkupAssist.Proofs.Cut
import MarkupAssist.Proofs.Lines

/-!
# The value that is being typed

The cursor line is read twice: by an automaton that looks for an open quote, and
by a search for the name in front of it.

* `Balanced`: a text in which quotes stand only around values, and each value is
  closed on its line. The automaton leaves such a text as it entered it, with no
  quote open (`openQuote?_of_balanced`), and this holds of its last line as well
  (`Balanced.last_line`).
* Behind a balanced text, an equals sign and a quote open a value
  (`openQuote?_value`), and the name in front of them is found again, whatever
  mark it carries (`assignmentFragment_value`, `assignedName?_marked`).
* In any text an open quote stands behind an equals sign and blanks
  (`exists_assigned`), and has not been closed since (`exists_of_openQuote?`).
* The name around the cursor reaches from the last gap to an equals sign, on
  either side of the cursor (`nameFragment?_behind`, `nameFragment?_front`).
-/

namespace MarkupAssist.Cursor

open Text

/-! ### The automaton -/

/-- A text whose quotes stand around values, each on one line. -/
inductive Balanced : List Char → Prop
  | nil : Balanced []
  | plain {c : Char} {cs : List Char} (hc : isQuote c = false) (h : Balanced cs) :
      Balanced (c :: cs)
  | value {quote : Char} {value cs : List Char} (hquote : isQuote quote = true)
      (hvalue : ∀ c ∈ value, isQuote c = false) (hline : '\n' ∉ value) (h : Balanced cs) :
      Balanced ('=' :: quote :: (value ++ quote :: cs))

/-- Reading a text counts its characters. -/
theorem index_foldl_step (cs : List Char) (s : QuoteScan) :
    (cs.foldl QuoteScan.step s).index = s.index + cs.length := by
  induction cs generalizing s with
  | nil => rfl
  | cons c cs ih =>
    rw [List.foldl_cons, ih, List.length_cons]
    change s.index + 1 + cs.length = _
    omega

theorem opened_step_plain {s : QuoteScan} (hs : s.opened = none) {c : Char}
    (hc : isQuote c = false) : (s.step c).opened = none := by
  simp [QuoteScan.step, hs, hc]

/-- A quote behind an equals sign opens a value. -/
theorem opened_step_quote {s : QuoteScan} (hs : s.opened = none) (hprevious : s.previous = some '=')
    {quote : Char} (hquote : isQuote quote = true) :
    (s.step quote).opened = some ⟨s.index, quote⟩ := by
  simp [QuoteScan.step, hs, hprevious, hquote]

/-- Text without quotes leaves a value open. -/
theorem opened_foldl_open {opened : OpenQuote} {cs : List Char} (hcs : ∀ c ∈ cs, c ≠ opened.quote)
    {s : QuoteScan} (hs : s.opened = some opened) :
    (cs.foldl QuoteScan.step s).opened = some opened := by
  induction cs generalizing s with
  | nil => exact hs
  | cons c cs ih =>
    refine ih (fun d hd => hcs d (List.mem_cons_of_mem _ hd)) ?_
    simp [QuoteScan.step, hs, hcs c List.mem_cons_self]

/-- Text that follows an equals sign and a quote, up to the closing quote, is a value. -/
theorem opened_foldl_value {s : QuoteScan} (hs : s.opened = none) {quote : Char}
    (hquote : isQuote quote = true) {typed : List Char} (htyped : ∀ c ∈ typed, isQuote c = false) :
    (('=' :: quote :: typed).foldl QuoteScan.step s).opened = some ⟨s.index + 1, quote⟩ := by
  have hopens : ((s.step '=').step quote).opened = some ⟨s.index + 1, quote⟩ :=
    opened_step_quote (opened_step_plain hs (by decide)) rfl hquote
  rw [List.foldl_cons, List.foldl_cons]
  refine opened_foldl_open (fun c hc => ?_) hopens
  rintro rfl
  rw [htyped _ hc] at hquote
  cases hquote

/-- **A balanced text leaves no quote open.** -/
theorem opened_foldl_balanced {cs : List Char} (h : Balanced cs) {s : QuoteScan}
    (hs : s.opened = none) : (cs.foldl QuoteScan.step s).opened = none := by
  induction h generalizing s with
  | nil => exact hs
  | plain hc _ ih => exact ih (opened_step_plain hs hc)
  | @value quote value cs hquote hvalue _ _ ih =>
    have hopen := opened_foldl_value hs hquote hvalue
    -- the second quote closes what the first one opened
    have hclosed : ((('=' :: quote :: value).foldl QuoteScan.step s).step quote).opened = none := by
      rw [QuoteScan.step, hopen]
      simp
    have hsplit :
        '=' :: quote :: (value ++ quote :: cs) = ('=' :: quote :: value) ++ quote :: cs := rfl
    rw [hsplit, List.foldl_append, List.foldl_cons]
    exact ih hclosed

theorem openQuote?_of_balanced {cs : List Char} (h : Balanced cs) : openQuote? cs = none :=
  opened_foldl_balanced h rfl

/-- Behind a balanced text a value is opened where it starts. -/
theorem openQuote?_value {cs : List Char} (h : Balanced cs) {quote : Char}
    (hquote : isQuote quote = true) {typed : List Char} (htyped : ∀ c ∈ typed, isQuote c = false) :
    openQuote? (cs ++ '=' :: quote :: typed) = some ⟨cs.length + 1, quote⟩ := by
  have hopen := opened_foldl_value (opened_foldl_balanced h (s := {}) rfl) hquote htyped
  rw [index_foldl_step, Nat.zero_add] at hopen
  rw [openQuote?, List.foldl_append, hopen]

/-- What the automaton knows of the text it has read: its length, and where an open quote stands.
Behind an open quote the same quote does not stand again. -/
structure QuoteScan.Reads (s : QuoteScan) (cs : List Char) : Prop where
  index : s.index = cs.length
  opened : ∀ o, s.opened = some o → ∃ front typed, cs = front ++ o.quote :: typed ∧
    o.index = front.length ∧ isQuote o.quote = true ∧ o.quote ∉ typed

theorem QuoteScan.Reads.step {s : QuoteScan} {cs : List Char} (h : s.Reads cs) (c : Char) :
    (s.step c).Reads (cs ++ [c]) := by
  refine ⟨?_, fun o ho => ?_⟩
  · rw [List.length_append, ← h.index]
    rfl
  · cases hs : s.opened with
    | none =>
      -- the character itself is the quote
      simp only [QuoteScan.step, hs] at ho
      split at ho
      · next hc =>
        obtain rfl := Option.some.inj ho
        refine ⟨cs, [], rfl, h.index, (Bool.and_eq_true_iff.mp hc).1, List.not_mem_nil⟩
      · cases ho
    | some q =>
      simp only [QuoteScan.step, hs] at ho
      split at ho
      · cases ho
      · next hc =>
        -- the quote stays open, and the character is part of the value
        obtain rfl := Option.some.inj ho
        obtain ⟨front, typed, rfl, hindex, hquote, hopen⟩ := h.opened q hs
        have hne : q.quote ≠ c := fun heq => hc (beq_iff_eq.mpr heq.symm)
        refine ⟨front, typed ++ [c], by simp, hindex, hquote, ?_⟩
        simp [hopen, hne]

theorem reads_foldl_step (cs : List Char) : (cs.foldl QuoteScan.step {}).Reads cs := by
  induction cs using List.reverseRecOn with
  | nil => exact ⟨rfl, fun o ho => nomatch ho⟩
  | append_singleton cs c ih =>
    rw [List.foldl_append]
    exact ih.step c

/-- **An open quote stands at its index, and has not been closed since.** -/
theorem exists_of_openQuote? {cs : List Char} {o : OpenQuote} (h : openQuote? cs = some o) :
    ∃ front typed, cs = front ++ o.quote :: typed ∧ o.index = front.length ∧
      isQuote o.quote = true ∧ o.quote ∉ typed :=
  (reads_foldl_step cs).opened o h

/-- The character that the automaton remembers is the last one that is no blank. -/
theorem exists_of_previous {cs : List Char} {d : Char}
    (h : (cs.foldl QuoteScan.step {}).previous = some d) :
    ∃ front blanks, cs = front ++ d :: blanks ∧ ∀ c ∈ blanks, isBlank c = true := by
  induction cs using List.reverseRecOn with
  | nil => cases h
  | append_singleton cs c ih =>
    rw [List.foldl_append] at h
    change (if isBlank c then (cs.foldl QuoteScan.step {}).previous else some c) = some d at h
    split at h
    · next hc =>
      obtain ⟨front, blanks, rfl, hblanks⟩ := ih h
      refine ⟨front, blanks ++ [c], by simp, fun b hb => ?_⟩
      rcases List.mem_append.mp hb with hb | hb
      · exact hblanks b hb
      · rwa [List.mem_singleton.mp hb]
    · obtain rfl := Option.some.inj h
      exact ⟨cs, [], rfl, by simp⟩

/-- **An open quote stands behind an equals sign**, with nothing but blanks between them. -/
theorem exists_assigned {cs : List Char} {o : OpenQuote} (h : openQuote? cs = some o) :
    ∃ front blanks, cs.take o.index = front ++ '=' :: blanks ∧ ∀ c ∈ blanks, isBlank c = true := by
  induction cs using List.reverseRecOn with
  | nil => cases h
  | append_singleton cs c ih =>
    have hread := reads_foldl_step cs
    rw [openQuote?, List.foldl_append, List.foldl_cons, List.foldl_nil] at h
    cases hs : (cs.foldl QuoteScan.step {}).opened with
    | none =>
      -- the character itself is the quote
      simp only [QuoteScan.step, hs] at h
      split at h
      · next hc =>
        obtain rfl := Option.some.inj h
        rw [hread.index, List.take_left]
        exact exists_of_previous (beq_iff_eq.mp (Bool.and_eq_true_iff.mp hc).2)
      · cases h
    | some q =>
      simp only [QuoteScan.step, hs] at h
      split at h
      · cases h
      · -- the quote was open before
        obtain rfl := Option.some.inj h
        obtain ⟨front, typed, hcs, hindex, -⟩ := hread.opened q hs
        have hle : q.index ≤ cs.length := by
          rw [hcs, hindex, List.length_append]
          exact Nat.le_add_right _ _
        rw [List.take_append_of_le_length hle]
        exact ih hs

/-! ### Balanced texts -/

namespace Balanced

theorem of_noQuote {cs : List Char} (hcs : ∀ c ∈ cs, isQuote c = false) : Balanced cs := by
  induction cs with
  | nil => exact nil
  | cons c cs ih =>
    exact plain (hcs c List.mem_cons_self) (ih fun d hd => hcs d (List.mem_cons_of_mem _ hd))

theorem append {cs ds : List Char} (hcs : Balanced cs) (hds : Balanced ds) :
    Balanced (cs ++ ds) := by
  induction hcs with
  | nil => exact hds
  | plain hc _ ih => exact plain hc ih
  | value hquote hvalue hline _ ih =>
    rw [List.cons_append, List.cons_append, List.append_assoc, List.cons_append]
    exact value hquote hvalue hline ih

/-- What follows a line feed is balanced, since no value has a line feed in it. -/
theorem of_newline {front cs : List Char} (h : Balanced (front ++ '\n' :: cs)) : Balanced cs := by
  generalize hds : front ++ '\n' :: cs = ds at h
  induction h generalizing front with
  | nil => simp at hds
  | plain hc h ih =>
    cases front with
    | nil =>
      obtain ⟨-, rfl⟩ := List.cons.inj hds
      exact h
    | cons d front => exact ih (List.cons.inj hds).2
  | @value quote value ds hquote hvalue hline h ih =>
    -- the value is passed as a whole, since the line feed can only stand behind it
    have hnotMem : '\n' ∉ '=' :: quote :: (value ++ [quote]) := by
      have hne : '\n' ≠ quote := by
        rintro rfl
        cases hquote
      simp [hne, hline]
    have hsplit : ('=' :: quote :: (value ++ [quote])) ++ ds = front ++ '\n' :: cs := by
      rw [hds]
      simp
    obtain ⟨more, -, hmore⟩ := exists_of_append_eq hsplit hnotMem
    exact ih hmore.symm

/-- **The last line of a balanced text is balanced.** -/
theorem last_line {above : List (List Char)} {last : List Char}
    (h : Balanced (unlines above ++ last)) : Balanced last := by
  induction above with
  | nil => exact h
  | cons line above ih =>
    rw [unlines_cons, List.append_assoc] at h
    exact ih h.of_newline

end Balanced

/-! ### Gaps -/

theorem isBlank_of_isGap {c : Char} (hc : isGap c = true) : isBlank c = true := by
  have hcases : c = ' ' ∨ c = '\t' := by simpa [isGap] using hc
  rcases hcases with rfl | rfl <;> decide

theorem isGap_of_isNameChar {c : Char} (hc : isNameChar c = true) : isGap c = false := by
  cases hgap : isGap c with
  | false => rfl
  | true => rw [← isBlank_of_isNameChar hc, isBlank_of_isGap hgap]

theorem isGap_of_isQuote {c : Char} (hc : isQuote c = true) : isGap c = false := by
  rcases eq_of_isQuote hc with rfl | rfl <;> decide

/-! ### The name in front of a value -/

/-- The marks that the name of an attribute can carry. -/
def nameMarks : List (List Char) :=
  [[], [':'], ['@'], "v-bind:".toList]

theorem assignedName?_run {name : List Char} (hname : ∀ c ∈ name, isNameChar c = true)
    (run cs : List Char) :
    assignedName? run (name ++ cs) = assignedName? (name.reverse ++ run) cs := by
  induction name generalizing run with
  | nil => rfl
  | cons c name ih =>
    rw [List.cons_append, assignedName?, if_pos (hname c List.mem_cons_self),
      ih fun d hd => hname d (List.mem_cons_of_mem _ hd)]
    simp

/-- **The name of a value that is being typed is found without its mark.** -/
theorem assignedName?_marked {mark name : List Char} (hmark : mark ∈ nameMarks)
    (hname : NameText name) {quote : Char} (hquote : isQuote quote = true) (typed : List Char) :
    assignedName? [] (mark ++ (name ++ '=' :: quote :: typed)) = some name := by
  have hplain : assignedName? [] (name ++ '=' :: quote :: typed) = some name := by
    rw [assignedName?_run hname.chars, List.append_nil, assignedName?, if_neg (by decide), if_pos]
    · rw [List.reverse_reverse]
    · simp [hname.ne_nil, hquote]
  simp only [nameMarks, List.mem_cons, List.not_mem_nil, or_false] at hmark
  -- each mark ends with a character that no name has, so the run starts anew behind it
  rcases hmark with rfl | rfl | rfl | rfl
  · exact hplain
  · exact hplain
  · exact hplain
  · exact hplain

/-- What stands in front of the name that is looked for does not hide it, if no quote in it follows
an equals sign and it does not prolong the name. -/
theorem assignedName?_skip {word cs : List Char}
    (hword : ∀ q, isQuote q = true → ¬ ['=', q] <:+: word)
    (hlast : word.getLast?.any isNameChar = false) (hcs : cs.head?.any isQuote = false) :
    assignedName? [] (word ++ cs) = assignedName? [] cs := by
  -- a run that is under way ends inside the word
  suffices hrun : word ≠ [] → ∀ run, assignedName? run (word ++ cs) = assignedName? [] cs by
    by_cases hne : word = []
    · rw [hne, List.nil_append]
    · exact hrun hne []
  intro hne
  induction word with
  | nil => exact absurd rfl hne
  | cons c word ih =>
    intro run
    have hword' : ∀ q, isQuote q = true → ¬ ['=', q] <:+: word := fun q hq hpair =>
      hword q hq (hpair.trans (List.suffix_cons c word).isInfix)
    have hnext : c = '=' → (word ++ cs).head?.any isQuote = false := by
      rintro rfl
      cases word with
      | nil => exact hcs
      | cons d word =>
        refine (Bool.not_eq_true _).mp fun hd => hword d hd ?_
        exact List.IsPrefix.isInfix ⟨word, rfl⟩
    have hstep : isNameChar c = false → assignedName? run (c :: (word ++ cs)) =
        assignedName? [] (word ++ cs) := by
      intro hc
      rw [assignedName?, if_neg (by simp [hc]), if_neg]
      intro hfound
      rw [Bool.and_eq_true, Bool.and_eq_true, beq_iff_eq] at hfound
      rw [hnext hfound.1.1] at hfound
      exact Bool.false_ne_true hfound.2
    rw [List.cons_append]
    by_cases hnil : word = []
    · subst hnil
      exact hstep hlast
    · have hlast' : word.getLast?.any isNameChar = false := by
        rwa [← List.singleton_append, List.getLast?_append_of_ne_nil _ hnil] at hlast
      cases hc : isNameChar c with
      | true =>
        rw [assignedName?, if_pos hc]
        exact ih hword' hlast' hnil (c :: run)
      | false =>
        rw [hstep hc]
        exact ih hword' hlast' hnil []

/-- A name that is found stands in front of an equals sign and a quote. -/
theorem exists_of_assignedName? {run cs name : List Char} (hrun : ∀ c ∈ run, isNameChar c = true)
    (h : assignedName? run cs = some name) :
    ∃ front quote typed, run.reverse ++ cs = front ++ (name ++ '=' :: quote :: typed) ∧
      isQuote quote = true ∧ NameText name := by
  induction cs generalizing run with
  | nil => cases h
  | cons c cs ih =>
    rw [assignedName?] at h
    split at h
    · next hc =>
      have hrun' : ∀ d ∈ c :: run, isNameChar d = true := by
        rintro d (_ | ⟨_, hd⟩)
        · exact hc
        · exact hrun d hd
      obtain ⟨front, quote, typed, heq, hfound⟩ := ih hrun' h
      refine ⟨front, quote, typed, ?_, hfound⟩
      rw [← heq, List.reverse_cons, List.append_assoc, List.singleton_append]
    · split at h
      · next hc =>
        -- the run that has been read so far is the name
        simp only [Bool.and_eq_true, beq_iff_eq, Bool.not_eq_true', List.isEmpty_eq_false_iff] at hc
        obtain ⟨⟨rfl, hne⟩, hquote⟩ := hc
        obtain rfl := Option.some.inj h
        cases cs with
        | nil => cases hquote
        | cons quote typed =>
          refine ⟨[], quote, typed, rfl, hquote, by simpa using hne, fun d hd => ?_⟩
          exact hrun d (List.mem_reverse.mp hd)
      · obtain ⟨front, quote, typed, heq, hfound⟩ := ih (by simp) h
        refine ⟨run.reverse ++ c :: front, quote, typed, ?_, hfound⟩
        rw [List.reverse_nil, List.nil_append] at heq
        rw [heq, List.append_assoc, List.cons_append]

/-- The text in which the name is looked for reaches from the last gap in front of the open quote,
unless another quote stands behind a gap of the value. -/
theorem assignmentFragment_open {front typed : List Char} {quote : Char}
    (hquote : isQuote quote = true)
    (htyped : ∀ c ∈ typed.dropWhile fun c => !isGap c, isQuote c = false) :
    assignmentFragment (front ++ quote :: typed) =
      takeEndWhile (fun c => !isGap c) front ++ quote :: typed := by
  by_cases hmore : ∃ c ∈ typed, isQuote c = true
  · obtain ⟨value, last, rest, rfl, hlast, hrest⟩ := exists_last hmore
    -- the last quote stands in front of every gap of the value
    have hvalue : ∀ c ∈ value, (!isGap c) = true := by
      by_contra hex
      rw [← List.dropWhile_eq_nil_iff, ← List.isEmpty_iff] at hex
      rw [List.dropWhile_append, if_neg hex] at htyped
      rw [htyped last (by simp)] at hlast
      cases hlast
    have hcut : splitLast? isQuote (front ++ quote :: (value ++ last :: rest)) =
        some (front ++ quote :: value, last :: rest) := by
      rw [← List.cons_append, ← List.append_assoc]
      exact splitLast?_append_cons hlast hrest
    have hword : ∀ c ∈ quote :: value, (!isGap c) = true := by
      rintro c (_ | ⟨_, hc⟩)
      · rw [isGap_of_isQuote hquote]
        rfl
      · exact hvalue c hc
    rw [assignmentFragment, hcut, Option.getD_some]
    change takeEndWhile (fun c => !isGap c) (front ++ quote :: value) ++ last :: rest = _
    rw [takeEndWhile_append_of_pos hword, List.append_assoc, List.cons_append]
  · have hnone : ∀ c ∈ typed, isQuote c = false := by simpa using hmore
    rw [assignmentFragment, splitLast?_append_cons hquote hnone, Option.getD_some]

/-- Another quote behind a gap of the value hides everything in front of the value. -/
theorem assignmentFragment_subset {front typed : List Char}
    (hhidden : ∃ c ∈ typed.dropWhile fun c => !isGap c, isQuote c = true) :
    assignmentFragment (front ++ typed) ⊆ typed := by
  obtain ⟨c, hc, hquote⟩ := hhidden
  obtain ⟨value, last, rest, rfl, hlast, hrest⟩ :=
    exists_last ⟨c, (List.dropWhile_sublist _).subset hc, hquote⟩
  obtain ⟨gap, hgap, hisGap⟩ : ∃ gap ∈ value, isGap gap = true := by
    by_contra hnone
    have hvalue : ∀ d ∈ value ++ [last], (!isGap d) = true := by
      intro d hd
      rw [Bool.not_eq_true']
      rcases List.mem_append.mp hd with hd | hd
      · exact (Bool.not_eq_true _).mp fun hgap => hnone ⟨d, hd, hgap⟩
      · rw [List.mem_singleton.mp hd]
        exact isGap_of_isQuote hlast
    rw [List.append_cons, List.dropWhile_append_of_pos hvalue] at hc
    rw [hrest c ((List.dropWhile_sublist _).subset hc)] at hquote
    cases hquote
  have hcut : splitLast? isQuote (front ++ (value ++ last :: rest)) =
      some (front ++ value, last :: rest) := by
    rw [← List.append_assoc]
    exact splitLast?_append_cons hlast hrest
  rw [assignmentFragment, hcut, Option.getD_some]
  change takeEndWhile (fun c => !isGap c) (front ++ value) ++ last :: rest ⊆ _
  rw [takeEndWhile_append_of_mem hgap (by simp [hisGap])]
  exact List.append_subset.mpr ⟨fun d hd => List.mem_append_left _ (takeEndWhile_subset _ _ hd),
    List.subset_append_right _ _⟩

/-- The text from the last gap of a line on, if a value is being typed there. -/
theorem assignmentFragment_value {line token : List Char} {quote : Char}
    (hline : line.getLast?.all isGap = true) (htoken : ∀ c ∈ token, isGap c = false)
    (hquote : isQuote quote = true) {typed : List Char} (htyped : ∀ c ∈ typed, isQuote c = false) :
    assignmentFragment (line ++ (token ++ quote :: typed)) = token ++ quote :: typed := by
  have hlast : line.getLast?.any (fun c => !isGap c) = false := by
    cases hend : line.getLast? with
    | none => rfl
    | some c => simpa [hend] using hline
  have htail : ∀ c ∈ typed.dropWhile fun c => !isGap c, isQuote c = false :=
    fun c hc => htyped c ((List.dropWhile_sublist _).subset hc)
  rw [← List.append_assoc, assignmentFragment_open hquote htail,
    takeEndWhile_append (fun c hc => by simp [htoken c hc]) hlast]

/-- A text has no complete quoted string if no quote stands in it twice. -/
theorem hasQuoted_eq_false_iff {cs : List Char} :
    hasQuoted cs = false ↔ ∀ q, isQuote q = true → cs.count q ≤ 1 := by
  rw [hasQuoted, Bool.or_eq_false_iff, decide_eq_false_iff_not, decide_eq_false_iff_not]
  constructor
  · rintro ⟨hdouble, hsingle⟩ q hq
    rcases eq_of_isQuote hq with rfl | rfl <;> omega
  · intro hcount
    have hdouble := hcount '"' rfl
    have hsingle := hcount '\'' rfl
    omega

theorem count_eq_zero_of_noQuote {cs : List Char} (hcs : ∀ c ∈ cs, isQuote c = false) {q : Char}
    (hq : isQuote q = true) : cs.count q = 0 := by
  refine List.count_eq_zero.mpr fun hmem => ?_
  rw [hcs q hmem] at hq
  cases hq

/-- A text with one quote has no complete quoted string. -/
theorem hasQuoted_eq_false {token : List Char} (htoken : ∀ c ∈ token, isQuote c = false)
    (quote : Char) {typed : List Char} (htyped : ∀ c ∈ typed, isQuote c = false) :
    hasQuoted (token ++ quote :: typed) = false := by
  rw [hasQuoted_eq_false_iff]
  intro q hq
  rw [List.count_append, List.count_cons, count_eq_zero_of_noQuote htoken hq,
    count_eq_zero_of_noQuote htyped hq]
  split <;> omega

/-! ### The name around the cursor -/

/-- Behind an equals sign the name is what stands between the last gap and it. -/
theorem nameFragment?_behind {line name typed : List Char} {gap : Char} (hgap : isGap gap = true)
    (hname : ∀ c ∈ name, isGap c = false) (htyped : ∀ c ∈ typed, isGap c = false)
    (hequals : '=' ∉ typed) (after : List Char) :
    nameFragment? (line ++ gap :: (name ++ '=' :: typed)) after = some (gap :: name) := by
  have htoken : splitLast? isGap (line ++ gap :: (name ++ '=' :: typed)) =
      some (line, gap :: (name ++ '=' :: typed)) := by
    refine splitLast?_append_cons hgap fun c hc => ?_
    rcases List.mem_append.mp hc with hc | hc
    · exact hname c hc
    · rcases List.mem_cons.mp hc with rfl | hc
      · rfl
      · exact htyped c hc
  have hassigned : splitLast? (· == '=') (gap :: name ++ '=' :: typed) =
      some (gap :: name, '=' :: typed) := by
    refine splitLast?_append_cons (by decide) fun c hc => ?_
    simpa using fun heq : c = '=' => hequals (heq ▸ hc)
  rw [List.cons_append] at hassigned
  simp only [nameFragment?, htoken, hassigned]

/-- In front of its equals sign the name goes on behind the cursor. -/
theorem nameFragment?_front {line front back : List Char} {gap : Char} (hgap : isGap gap = true)
    (hfront : ∀ c ∈ front, isGap c = false) (hequals : '=' ∉ front) (hback : '=' ∉ back)
    (rest : List Char) :
    nameFragment? (line ++ gap :: front) (back ++ '=' :: rest) = some (gap :: (front ++ back)) := by
  have htoken : splitLast? isGap (line ++ gap :: front) = some (line, gap :: front) :=
    splitLast?_append_cons hgap hfront
  have hgap' : gap ≠ '=' := by
    rintro rfl
    cases hgap
  have hunassigned : splitLast? (· == '=') (gap :: front) = none := by
    refine splitLast?_eq_none fun c hc => ?_
    rw [beq_eq_false_iff_ne]
    rintro rfl
    rcases List.mem_cons.mp hc with heq | hc
    · exact hgap' heq.symm
    · exact hequals hc
  have hafter : splitFirst? (· == '=') (back ++ '=' :: rest) = some (back, '=' :: rest) := by
    refine splitFirst?_append_cons (fun c hc => ?_) (by decide)
    simpa using fun heq : c = '=' => hback (heq ▸ hc)
  simp only [nameFragment?, htoken, hunassigned, hafter, Option.map_some, List.cons_append]

/-- What is found reaches from the last gap to the last equals sign, if there is none behind the
cursor. -/
theorem exists_of_nameFragment?_eq_some {before after fragment : List Char} (hafter : '=' ∉ after)
    (h : nameFragment? before after = some fragment) :
    ∃ front gap token behind, before = front ++ gap :: (token ++ '=' :: behind) ∧
      fragment = gap :: token ∧ isGap gap = true ∧
      (∀ c ∈ token ++ '=' :: behind, isGap c = false) ∧ '=' ∉ behind := by
  have hgaps : ∃ c ∈ before, isGap c = true := by
    by_contra hnone
    have hcut : splitLast? isGap before = none := splitLast?_eq_none (by simpa using hnone)
    rw [nameFragment?, hcut] at h
    cases h
  obtain ⟨front, gap, word, rfl, hgap, hword⟩ := exists_last hgaps
  have hcut : splitLast? isGap (front ++ gap :: word) = some (front, gap :: word) :=
    splitLast?_append_cons hgap hword
  have hassigned : ∃ c ∈ gap :: word, (c == '=') = true := by
    by_contra hnone
    have hunassigned : splitLast? (· == '=') (gap :: word) = none :=
      splitLast?_eq_none fun c hc => (Bool.not_eq_true _).mp fun heq => hnone ⟨c, hc, heq⟩
    have hnext : splitFirst? (· == '=') after = none := by
      refine splitFirst?_eq_none fun c hc => ?_
      simpa using fun heq : c = '=' => hafter (heq ▸ hc)
    simp only [nameFragment?, hcut, hunassigned, hnext] at h
    cases h
  obtain ⟨found, equals, behind, htoken, hequals, hbehind⟩ := exists_last hassigned
  obtain rfl : equals = '=' := beq_iff_eq.mp hequals
  obtain rfl : fragment = found := by
    have hfound : splitLast? (· == '=') (gap :: word) = some (found, '=' :: behind) := by
      rw [htoken]
      exact splitLast?_append_cons hequals hbehind
    simp only [nameFragment?, hcut, hfound] at h
    exact (Option.some.inj h).symm
  cases fragment with
  | nil =>
    -- the gap would be the equals sign
    obtain ⟨rfl, -⟩ := List.cons.inj htoken
    cases hgap
  | cons c token =>
    obtain ⟨rfl, rfl⟩ := List.cons.inj htoken
    refine ⟨front, gap, token, behind, rfl, rfl, hgap, hword, fun hmem => ?_⟩
    simpa using hbehind '=' hmem

end MarkupAssist.Cursor
