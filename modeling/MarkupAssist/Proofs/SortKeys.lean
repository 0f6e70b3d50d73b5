import Mathlib.Algebra.Group.Nat.Defs
import Mathlib.Data.List.Basic
import MarkupAssist.Completion.Elements

/-!
# The sort keys of elements

Editors sort what is offered by its key, as text. The key of an element has its place in the
catalogue in front of its tag, padded with zeros to four digits, so that the order of the texts is
that of the places. This works as long as four digits are enough.

* `lastDigits`: the digits of a number in a field of fixed width. A padded number is such a field if
  it fits in (`replicate_append_toDigits`), and fields are ordered as their numbers
  (`lastDigits_lt`).
* `Catalogue.key_lt`: of two texts with different fields of the same width in front, the fields
  decide, whatever stands behind them (`append_lt_append`).
* `Catalogue.key_overflow`: with a fifth digit the first one starts again with a 1, and the key
  comes too early.

`sortKeys_increasing_iff` says when the keys keep the order of the catalogue.
-/

namespace MarkupAssist

/-! ### Numbers in a field of fixed width -/

/-- The last decimal digits of a number, as many as a field is wide. -/
def lastDigits : Nat → Nat → List Char
  | 0, _ => []
  | width + 1, n => lastDigits width (n / 10) ++ [(n % 10).digitChar]

theorem length_lastDigits (width n : Nat) : (lastDigits width n).length = width := by
  induction width generalizing n with
  | zero => rfl
  | succ width ih => rw [lastDigits, List.length_append, ih, List.length_singleton]

theorem lastDigits_zero (width : Nat) : lastDigits width 0 = List.replicate width '0' := by
  induction width with
  | zero => rfl
  | succ width ih =>
    rw [lastDigits, Nat.zero_div, ih, List.replicate_succ']
    rfl

/-- A number that fits into a field fills it when it is padded with zeros. -/
theorem replicate_append_toDigits {width n : Nat} (hwidth : 0 < width) (hn : n < 10 ^ width) :
    List.replicate (width - (Nat.toDigits 10 n).length) '0' ++ Nat.toDigits 10 n =
      lastDigits width n := by
  induction width generalizing n with
  | zero => cases hwidth
  | succ width ih =>
    rw [lastDigits]
    by_cases hsmall : n < 10
    · rw [Nat.toDigits_of_lt_base hsmall, Nat.mod_eq_of_lt hsmall, Nat.div_eq_of_lt hsmall,
        lastDigits_zero]
      rfl
    · -- the last digit is split off on both sides
      have hdiv : n / 10 < 10 ^ width := by
        rw [Nat.pow_succ] at hn
        omega
      have hpos : 0 < width := by
        rcases Nat.eq_zero_or_pos width with rfl | hpos
        · omega
        · exact hpos
      rw [Nat.toDigits_of_base_le (by decide) (Nat.le_of_not_lt hsmall), List.length_append,
        List.length_singleton, Nat.add_sub_add_right, ← List.append_assoc, ih hpos hdiv]

theorem digitChar_lt : ∀ n < 10, ∀ m < n, m.digitChar < n.digitChar := by
  decide

/-- Where two texts of the same length differ, what follows them does not count. -/
theorem append_lt_append {as bs : List Char} (hlength : as.length = bs.length) (h : as < bs)
    (cs ds : List Char) : as ++ cs < bs ++ ds := by
  induction as generalizing bs with
  | nil =>
    rw [List.length_eq_zero_iff.mp hlength.symm] at h
    cases h
  | cons a as ih =>
    cases bs with
    | nil => cases hlength
    | cons b bs =>
      rw [List.cons_lt_cons_iff] at h
      rw [List.cons_append, List.cons_append, List.cons_lt_cons_iff]
      rcases h with hab | ⟨hab, hrest⟩
      · exact .inl hab
      · exact .inr ⟨hab, ih (Nat.succ.inj hlength) hrest⟩

/-- **Fields of the same width are ordered as the numbers in them.** -/
theorem lastDigits_lt {width m n : Nat} (hmn : m < n) (hn : n < 10 ^ width) :
    lastDigits width m < lastDigits width n := by
  induction width generalizing m n with
  | zero =>
    rw [Nat.pow_zero] at hn
    omega
  | succ width ih =>
    have hdiv : n / 10 < 10 ^ width := by
      rw [Nat.pow_succ] at hn
      omega
    rw [lastDigits, lastDigits]
    by_cases hlead : m / 10 < n / 10
    · refine append_lt_append ?_ (ih hlead hdiv) _ _
      rw [length_lastDigits, length_lastDigits]
    · -- the digits in front are the same, so the last ones differ
      have hsame : m / 10 = n / 10 := by omega
      have hlast : (m % 10).digitChar < (n % 10).digitChar :=
        digitChar_lt _ (Nat.mod_lt _ (by decide)) _ (by omega)
      rw [hsame]
      exact List.append_left_lt (List.cons_lt_cons_iff.mpr (.inl hlast))

theorem toList_fourDigits {n : Nat} (hn : n < 10 ^ 4) : (fourDigits n).toList = lastDigits 4 n := by
  rw [fourDigits, String.toList_ofList]
  exact replicate_append_toDigits (by decide) hn

/-! ### Keys -/

namespace Catalogue

/-- The sort key of a tag at a place of the catalogue. -/
def sortKey (tag : String) (place : Nat) : String :=
  CompletionItem.sortPrefix ++ fourDigits place ++ tag

theorem getElem_sortKeys (catalogue : Catalogue) (settings : Settings) {i : Nat}
    (hi : i < ((catalogue.completeElements settings).map (·.sortText)).length) :
    ∃ tag, ((catalogue.completeElements settings).map (·.sortText))[i] = sortKey tag i := by
  simp only [completeElements, List.getElem_map, List.getElem_zipIdx, Nat.zero_add]
  exact ⟨_, rfl⟩

theorem key_lt {i j : Nat} (hij : i < j) (hj : j < 10 ^ 4) (tag tag' : String) :
    sortKey tag i < sortKey tag' j := by
  rw [String.lt_iff]
  simp only [sortKey, String.toList_append, List.append_assoc]
  apply List.append_left_lt
  -- both fields are four digits wide, so they decide before the tags are reached
  have hi : i < 10 ^ 4 := Nat.lt_trans hij hj
  rw [toList_fourDigits hi, toList_fourDigits hj]
  refine append_lt_append ?_ (lastDigits_lt hij hj) _ _
  rw [length_lastDigits, length_lastDigits]

/-- The first key with five digits comes before the last one with four. -/
theorem key_overflow (tag tag' : String) : sortKey tag' 10000 < sortKey tag 9999 := by
  rw [String.lt_iff]
  simp only [sortKey, String.toList_append, List.append_assoc]
  apply List.append_left_lt
  -- a 1 stands against a 9
  exact List.cons_lt_cons_iff.mpr (.inl (by decide))

end Catalogue

/-- **Sort keys keep the order of the catalogue up to ten thousand elements.** Compared as texts,
the keys of all elements increase from each to the next exactly if there are at most 10000 of them,
whatever the tags are. -/
theorem sortKeys_increasing_iff (catalogue : Catalogue) (settings : Settings) :
    ((catalogue.completeElements settings).map (·.sortText)).Pairwise (· < ·) ↔
      catalogue.elements.length ≤ 10000 := by
  have hlength : ((catalogue.completeElements settings).map (·.sortText)).length =
      catalogue.elements.length := by
    simp [Catalogue.completeElements]
  rw [List.pairwise_iff_getElem]
  constructor
  · intro hincreasing
    by_contra hmany
    -- the elements at the places 9999 and 10000 are in the wrong order
    have hplace : 10000 < ((catalogue.completeElements settings).map (·.sortText)).length := by
      omega
    have hplace' : 9999 < ((catalogue.completeElements settings).map (·.sortText)).length := by
      omega
    obtain ⟨tag, htag⟩ := catalogue.getElem_sortKeys settings hplace'
    obtain ⟨tag', htag'⟩ := catalogue.getElem_sortKeys settings hplace
    have hlt := hincreasing 9999 10000 hplace' hplace (by decide)
    rw [htag, htag'] at hlt
    exact String.lt_asymm hlt (Catalogue.key_overflow tag tag')
  · intro hfew i j hi hj hij
    obtain ⟨tag, htag⟩ := catalogue.getElem_sortKeys settings hi
    obtain ⟨tag', htag'⟩ := catalogue.getElem_sortKeys settings hj
    rw [htag, htag']
    exact Catalogue.key_lt hij (by omega) tag tag'

end MarkupAssist
