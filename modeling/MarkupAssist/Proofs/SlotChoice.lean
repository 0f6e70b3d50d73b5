import MarkupAssist.Proofs.ReplacedValue

/-!
# The word of a composed value that comes next

A composed value has one definition for each of its words, and the options that are offered are
those of one word. Which one is found by counting the spaces that have been typed
(`Completion.slotIndex`), but what comes next depends on the words that have been typed. Here the
two counts are compared.

* `Text.length_pieces`: spaces cut a text into one piece more than there are spaces.
* `Completion.endedWords`: the words that a space ends, so the pieces in front of a space that are
  not empty. Spaces at the start of the text end none (`endedWords_dropWhile`).
* There are at most as many such words as spaces (`length_endedWords_le`). Behind the start of the
  first word there are as many exactly if no piece is empty, and a piece is empty exactly if two
  spaces stand side by side (`Text.nil_mem_pieces`, `length_endedWords_eq_iff`).

So the count of spaces is the count of words as long as words are parted by single spaces
(`slot_of_typed`). A second space between two words passes over a definition
(`slot_behind_two_spaces`).
-/

namespace MarkupAssist

open Text Cursor

/-! ### Pieces between spaces -/

namespace Text

variable {α : Type} {p : α → Bool}

theorem pieces_cons_of_pos {x : α} (hx : p x = true) (xs : List α) :
    pieces p (x :: xs) = [] :: pieces p xs := by
  rw [pieces, hx]

/-- The first piece goes on with an element that is not left out. -/
theorem exists_pieces_cons {x : α} (hx : p x = false) (xs : List α) :
    ∃ piece rest, pieces p xs = piece :: rest ∧ pieces p (x :: xs) = (x :: piece) :: rest := by
  have hne : pieces p xs ≠ [] := by
    cases xs with
    | nil => exact List.cons_ne_nil _ _
    | cons y ys =>
      unfold pieces
      split <;> exact List.cons_ne_nil _ _
  obtain ⟨piece, rest, hpieces⟩ := List.exists_cons_of_ne_nil hne
  refine ⟨piece, rest, hpieces, ?_⟩
  rw [pieces, hx, hpieces]

/-- **There is one piece more than there are elements left out.** -/
theorem length_pieces (p : α → Bool) (xs : List α) :
    (pieces p xs).length = xs.countP p + 1 := by
  induction xs with
  | nil => rfl
  | cons x xs ih =>
    cases hx : p x with
    | true => rw [pieces_cons_of_pos hx, List.length_cons, ih, List.countP_cons_of_pos hx]
    | false =>
      obtain ⟨piece, rest, hpieces, hcons⟩ := exists_pieces_cons hx xs
      rw [hpieces, List.length_cons] at ih
      rw [hcons, List.length_cons, ih, List.countP_cons_of_neg (by simp [hx])]

theorem pieces_ne_nil (p : α → Bool) (xs : List α) : pieces p xs ≠ [] := by
  intro hnil
  have hlength := length_pieces p xs
  rw [hnil] at hlength
  exact absurd hlength (Nat.succ_ne_zero _).symm

/-- The pieces in front of an element that is left out, when another one is put in front. -/
theorem dropLast_pieces_of_pos {x : α} (hx : p x = true) (xs : List α) :
    (pieces p (x :: xs)).dropLast = [] :: (pieces p xs).dropLast := by
  rw [pieces_cons_of_pos hx, List.dropLast_cons_of_ne_nil (pieces_ne_nil p xs)]

/-- **A piece is empty if it stands between two neighbours.** In front of the first character that
is left out, a piece is also empty if the text starts with that character. -/
theorem nil_mem_pieces [DecidableEq α] (a : α) (xs : List α) :
    ([] ∈ (pieces (· == a) xs).dropLast ↔ [a] <+: xs ∨ [a, a] <:+: xs) ∧
      ([] ∈ (pieces (· == a) xs).tail.dropLast ↔ [a, a] <:+: xs) := by
  -- the first piece is special, so the induction also speaks about the pieces without it
  induction xs with
  | nil => simp [pieces]
  | cons x xs ih =>
    by_cases hx : x = a
    · subst hx
      have hdouble : [x, x] <:+: x :: xs ↔ [x] <+: xs ∨ [x, x] <:+: xs := by
        rw [List.infix_cons_iff, List.cons_prefix_cons]
        simp
      rw [dropLast_pieces_of_pos (by simp), pieces_cons_of_pos (by simp), List.tail_cons, hdouble]
      refine ⟨?_, ih.1⟩
      -- a space at the start has an empty piece in front of it
      refine iff_of_true List.mem_cons_self (.inl ?_)
      exact List.cons_prefix_cons.mpr ⟨rfl, List.nil_prefix⟩
    · obtain ⟨piece, rest, hpieces, hcons⟩ :=
        exists_pieces_cons (p := (· == a)) (by simpa using hx) xs
      have hstart : ¬ [a] <+: x :: xs := by
        rw [List.cons_prefix_cons]
        exact fun h => hx h.1.symm
      have hdouble : [a, a] <:+: x :: xs ↔ [a, a] <:+: xs := by
        rw [List.infix_cons_iff, List.cons_prefix_cons]
        simp [Ne.symm hx]
      have hrest : [] ∈ rest.dropLast ↔ [a, a] <:+: xs := by
        rw [← ih.2, hpieces, List.tail_cons]
      rw [hcons, hdouble, List.tail_cons]
      refine ⟨?_, hrest⟩
      -- the first piece is not empty, so only the others count
      cases rest with
      | nil => simpa [hstart] using hrest
      | cons next rest => simpa [hstart] using hrest

end Text

namespace Completion

/-! ### Words and spaces -/

/-- The words of a text that are ended by a space: the runs of other characters that are followed
by one. -/
def endedWords (typed : List Char) : List (List Char) :=
  (pieces (· == ' ') typed).dropLast.filter fun word => !word.isEmpty

/-- Spaces in front of the first word end no word. -/
theorem endedWords_dropWhile (typed : List Char) :
    endedWords (typed.dropWhile (· == ' ')) = endedWords typed := by
  induction typed with
  | nil => rfl
  | cons c typed ih =>
    by_cases hc : c = ' '
    · subst hc
      rw [List.dropWhile_cons_of_pos (by simp), ih]
      unfold endedWords
      rw [dropLast_pieces_of_pos (by simp), List.filter_cons_of_neg (by simp)]
    · rw [List.dropWhile_cons_of_neg (by simpa using hc)]

/-- The pieces in front of a space are as many as the spaces. -/
theorem length_dropLast_pieces (typed : List Char) :
    (pieces (· == ' ') typed).dropLast.length = typed.count ' ' := by
  rw [List.length_dropLast, length_pieces, Nat.add_sub_cancel]
  rfl

theorem length_endedWords_le (typed : List Char) :
    (endedWords typed).length ≤ typed.count ' ' := by
  rw [← length_dropLast_pieces]
  exact List.length_filter_le _ _

/-- **Behind the start of a word, spaces count words if no two of them are neighbours.** -/
theorem length_endedWords_eq_iff {typed : List Char} (htyped : typed.head? ≠ some ' ') :
    (endedWords typed).length = typed.count ' ' ↔ ¬ [' ', ' '] <:+: typed := by
  have hstart : ¬ [' '] <+: typed := by
    rintro ⟨rest, rfl⟩
    exact htyped rfl
  have hempty : [] ∈ (pieces (· == ' ') typed).dropLast ↔ [' ', ' '] <:+: typed := by
    rw [(nil_mem_pieces ' ' typed).1]
    exact or_iff_right hstart
  rw [← length_dropLast_pieces, endedWords, List.length_filter_eq_length_iff, ← hempty]
  constructor
  · intro hall hnil
    exact absurd (hall [] hnil) (by simp)
  · intro hnil word hword
    simpa using fun h : word = [] => hnil (h ▸ hword)

/-- In a text whose only blanks are spaces, the number of the next word is the number of spaces
behind the start of the first word. -/
theorem slotIndex_eq {typed : List Char} (htyped : ∀ c ∈ typed, c = ' ' ∨ isBlank c = false) :
    slotIndex typed = (typed.dropWhile (· == ' ')).count ' ' := by
  unfold slotIndex
  induction typed with
  | nil => rfl
  | cons c typed ih =>
    rcases htyped c List.mem_cons_self with rfl | hc
    · rw [List.dropWhile_cons_of_pos (by decide), List.dropWhile_cons_of_pos (by decide)]
      exact ih fun d hd => htyped d (List.mem_cons_of_mem _ hd)
    · -- the first word starts here, for both ways to look for it
      have hne : c ≠ ' ' := by
        rintro rfl
        cases hc
      rw [List.dropWhile_cons_of_neg (by simp [hc]),
        List.dropWhile_cons_of_neg (by simpa using hne)]

/-! ### What is offered -/

/-- The text that has been typed of an open value. -/
theorem textInRange_typed {doc : Document} {p : Position} {opened : OpenQuote}
    (hopened : doc.valueQuote? p = some opened) :
    doc.textInRange (.onLine p.line (opened.index + 1) p.character) =
      (doc.textBefore p).drop (opened.index + 1) := by
  cases hline : doc.line? p.line with
  | some line =>
    rw [Document.textInRange_onLine hline, Document.textBefore, Document.lineText, hline,
      Option.getD_some]
  | none =>
    -- past the last line there is no quote
    have hnone : doc.valueQuote? p = none := by
      unfold Document.valueQuote? Document.textBefore Document.lineText
      rw [hline, Option.getD_none, List.take_nil]
      rfl
    rw [hnone] at hopened
    cases hopened

/-- The options of a word of a composed value, by its number; there are none if the value has no
such word. -/
def slotOptions (slots : Entries Attribute) (k : Nat) : List (String × String) :=
  slots[k]?.elim [] fun slot => optionsOf slot.2

theorem map_valueItems (attr : Attribute) (range : Option Range) :
    (valueItems attr range).map (fun item => (item.label, item.detail)) =
      (optionsOf attr).map fun option => (option.1, some option.2) := by
  unfold valueItems
  rw [List.map_map]
  rfl

/-- The items of a composed value are the options of one of its words. -/
theorem map_completeValues_slots {catalogue : Catalogue} {tag name : String} {attr : Attribute}
    (hattr : catalogue.attribute? tag name = some attr) {slots : Entries Attribute}
    (hslots : attr.slots? = some slots) {doc : Document} {p : Position} {opened : OpenQuote}
    (hopened : doc.valueQuote? p = some opened) :
    (catalogue.completeValues doc p tag name).map (fun item => (item.label, item.detail)) =
      (slotOptions slots (slotIndex ((doc.textBefore p).drop (opened.index + 1)))).map
        fun option => (option.1, some option.2) := by
  simp only [Catalogue.completeValues, hattr, hopened, hslots, textInRange_typed hopened]
  unfold slotOptions
  cases slots[slotIndex ((doc.textBefore p).drop (opened.index + 1))]? with
  | none => rfl
  | some slot => exact map_valueItems slot.2 _

end Completion

open Completion

/-- **The next word of a composed value is found by the spaces that have been typed.** The cursor is
in an open value, and the only blanks typed in it are spaces. The options are those of the word
whose number is the number of spaces behind the start of the first word; if the value has no such
word, there are none. This number is at least that of the words that have been ended by a space, and
it is the same exactly if no two of those spaces stand side by side. -/
theorem slot_of_typed {catalogue : Catalogue} {tag name : String} {attr : Attribute}
    (hattr : catalogue.attribute? tag name = some attr) {slots : Entries Attribute}
    (hslots : attr.slots? = some slots) {doc : Document} {p : Position} {opened : OpenQuote}
    (hopened : doc.valueQuote? p = some opened)
    (htyped : ∀ c ∈ (doc.textBefore p).drop (opened.index + 1), c = ' ' ∨ isBlank c = false) :
    let typed := (doc.textBefore p).drop (opened.index + 1)
    let spaces := (typed.dropWhile (· == ' ')).count ' '
    (catalogue.completeValues doc p tag name).map (fun item => (item.label, item.detail)) =
        (slotOptions slots spaces).map (fun option => (option.1, some option.2)) ∧
      (endedWords typed).length ≤ spaces ∧
      ((endedWords typed).length = spaces ↔ ¬ [' ', ' '] <:+: typed.dropWhile (· == ' ')) := by
  intro typed spaces
  have hstart : (typed.dropWhile (· == ' ')).head? ≠ some ' ' := by
    intro hhead
    have hstop := head?_dropWhile (· == ' ') typed
    rw [hhead] at hstop
    cases hstop
  refine ⟨?_, ?_, ?_⟩
  · rw [map_completeValues_slots hattr hslots hopened, slotIndex_eq htyped]
  · rw [← endedWords_dropWhile]
    exact length_endedWords_le _
  · rw [← endedWords_dropWhile]
    exact length_endedWords_eq_iff hstart

/-- The attribute of `boxCatalogue` whose value is composed of two words. -/
def borderAttribute : Attribute where
  values := some (.slots [
    ("width", { values := some (.options [("thin", none)]) }),
    ("style", { values := some (.options [("solid", none)]) })])

/-- A composed value of which the second word is being typed, behind spaces and the first word. -/
def startedStyle : Document :=
  ⟨"<f-box border='  thin so' size=\"\">".toList, "vue"⟩

/-- Spaces at the start of the value do not count. -/
theorem slot_of_typed_startedStyle :
    startedStyle.valueQuote? ⟨0, 24⟩ = some ⟨14, '\''⟩ ∧
      endedWords "  thin so".toList = ["thin".toList] ∧
      (boxCatalogue.completeValues startedStyle ⟨0, 24⟩ "f-box" "border").map
        (fun item => (item.label, item.detail)) = [("solid", some "")] := by
  have hopened : startedStyle.valueQuote? ⟨0, 24⟩ = some ⟨14, '\''⟩ := by decide
  have hattr : boxCatalogue.attribute? "f-box" "border" = some borderAttribute := rfl
  have htyped : ((startedStyle.textBefore ⟨0, 24⟩).drop 15).all
      (fun c => c == ' ' || !isBlank c) = true := by decide
  refine ⟨hopened, by decide, ?_⟩
  exact (slot_of_typed hattr rfl hopened (by simpa using htyped)).1

/-- A composed value with two spaces behind its first word. -/
def spacedStyle : Document :=
  ⟨"<f-box border='thin  '>".toList, "vue"⟩

/-- **A second space passes over a word.** One word has been ended, and the value has a second word,
but its options are not offered. -/
theorem slot_behind_two_spaces :
    spacedStyle.valueQuote? ⟨0, 21⟩ = some ⟨14, '\''⟩ ∧
      (spacedStyle.textBefore ⟨0, 21⟩).drop 15 = "thin  ".toList ∧
      (endedWords "thin  ".toList).length = 1 ∧
      borderAttribute.slots?.map (fun slots => slotOptions slots 1) = some [("solid", "")] ∧
      boxCatalogue.completeValues spacedStyle ⟨0, 21⟩ "f-box" "border" = [] := by
  decide +kernel

end MarkupAssist
