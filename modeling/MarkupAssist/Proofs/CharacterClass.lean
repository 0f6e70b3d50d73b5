import Mathlib.Data.List.Basic
import MarkupAssist.Text.Word

/-!
# Disjoint character classes

The scanners of this library cut a text at the first character outside a class,
so their correctness rests on which classes exclude each other. The facts here
are the ones that several scanners share:

* a blank is never a name character (`isNameChar_of_isBlank`), so a run of name
  characters ends at the first blank;
* no blank and no name character is a quote (`isQuote_eq_false`);
* the punctuation of markup is outside the name characters, so it does not occur
  in a run of them (`notMem_of_nameChars`). `NameText` is such a run that is not
  empty.

The blanks are finitely many (`blankCodes`), so the first fact is a finite check
against the tables of word characters.
-/

namespace MarkupAssist.Text

/-- The code points of the blanks. -/
def blankCodes : List Nat :=
  [9, 10, 11, 12, 13, 0x20, 0x85, 0xA0, 0x1680, 0x2000, 0x2001, 0x2002, 0x2003, 0x2004, 0x2005,
   0x2006, 0x2007, 0x2008, 0x2009, 0x200A, 0x2028, 0x2029, 0x202F, 0x205F, 0x3000]

theorem toNat_mem_blankCodes {c : Char} (hc : isBlank c = true) : c.toNat ∈ blankCodes := by
  simp only [isBlank, Bool.or_eq_true, Bool.and_eq_true, decide_eq_true_eq, beq_iff_eq] at hc
  simp only [blankCodes, List.mem_cons, List.not_mem_nil, or_false]
  omega

/-- **No blank is a name character.** -/
theorem isNameChar_of_isBlank {c : Char} (hc : isBlank c = true) : isNameChar c = false := by
  have hcodes : ∀ n ∈ blankCodes, isNameChar (Char.ofNat n) = false := by decide +kernel
  have h := hcodes c.toNat (toNat_mem_blankCodes hc)
  rwa [Char.ofNat_toNat] at h

theorem isBlank_of_isNameChar {c : Char} (hc : isNameChar c = true) : isBlank c = false := by
  cases hb : isBlank c with
  | false => rfl
  | true => rw [isNameChar_of_isBlank hb] at hc; exact absurd hc (by simp)

/-- A name character differs from every character that is none. -/
theorem ne_of_isNameChar {c d : Char} (hc : isNameChar c = true) (hd : isNameChar d = false) :
    c ≠ d := by
  rintro rfl
  rw [hd] at hc
  exact absurd hc (by simp)

theorem notMem_of_nameChars {cs : List Char} (hcs : ∀ c ∈ cs, isNameChar c = true) {d : Char}
    (hd : isNameChar d = false) : d ∉ cs :=
  fun hmem => ne_of_isNameChar (hcs d hmem) hd rfl

theorem eq_of_isQuote {c : Char} (hc : isQuote c = true) : c = '"' ∨ c = '\'' := by
  simpa [isQuote] using hc

/-- A character of a class that has no quotes is none. -/
theorem isQuote_eq_false {p : Char → Bool} (hdouble : p '"' = false) (hsingle : p '\'' = false)
    {c : Char} (hc : p c = true) : isQuote c = false := by
  cases hquote : isQuote c with
  | false => rfl
  | true =>
    rcases eq_of_isQuote hquote with rfl | rfl
    · rw [hdouble] at hc
      cases hc
    · rw [hsingle] at hc
      cases hc

/-- A name: a run of name characters that is not empty. -/
structure NameText (cs : List Char) : Prop where
  ne_nil : cs ≠ []
  chars : ∀ c ∈ cs, isNameChar c = true

theorem NameText.notMem {cs : List Char} (h : NameText cs) {d : Char}
    (hd : isNameChar d = false) : d ∉ cs :=
  notMem_of_nameChars h.chars hd

theorem isNameChar_of_isWord {c : Char} (hc : isWord c = true) : isNameChar c = true := by
  rw [isNameChar, hc, Bool.true_or]

/-- A Latin letter is a word character. -/
theorem isWord_of_isAlpha {c : Char} (hc : c.isAlpha = true) : isWord c = true := by
  -- below 0x80 word characters are not looked up in a table
  have hsmall : c.toNat < 0x80 := by
    have hcases : c.isUpper = true ∨ c.isLower = true := Bool.or_eq_true_iff.mp hc
    have hle : c.val ≤ 'z'.val := by
      rcases hcases with h | h
      · have hupper : c.val ≥ 'A'.val ∧ c.val ≤ 'Z'.val := of_decide_eq_true h
        exact UInt32.le_trans hupper.2 (by decide)
      · exact of_decide_eq_true (Bool.and_eq_true_iff.mp h).2
    exact Nat.lt_of_le_of_lt (UInt32.le_iff_toNat_le.mp hle) (by decide)
  rw [isWord, if_pos hsmall, Char.isAlphanum, hc, Bool.true_or, Bool.true_or]

end MarkupAssist.Text
