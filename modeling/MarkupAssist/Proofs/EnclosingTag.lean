import Mathlib.Data.List.TakeWhile
import MarkupAssist.Cursor.Bracket
import MarkupAssist.Proofs.CharacterClass
import MarkupAssist.Proofs.Lines
import MarkupAssist.Proofs.Cut

/-!
# The tag between two brackets

`Document.enclosingTag?` joins the text from the last `<` in front of the cursor with
the text up to the first `>` behind it, and reads a name from what it gets. It does
not look for a tag: blanks, slashes and further brackets are cut off by rules of
their own.

* `regionName_nameRegion`: the rules leave the name, if a character that cannot
  stand in a name follows it.
* `Document.Splits.enclosingTag?_eq`: so the answer is the name behind the `<`,
  wherever in the tag the cursor stands.
-/

namespace MarkupAssist

open Text

namespace Cursor

theorem eq_of_isSeparator {c : Char} (hc : isSeparator c = true) :
    c = ' ' ∨ c = '\t' ∨ c = '\r' ∨ c = '\n' := by
  simpa [isSeparator, or_assoc] using hc

theorem isBlank_of_isSeparator {c : Char} (hc : isSeparator c = true) : isBlank c = true := by
  rcases eq_of_isSeparator hc with rfl | rfl | rfl | rfl <;> decide

theorem isSeparator_of_isNameChar {c : Char} (hc : isNameChar c = true) :
    isSeparator c = false := by
  refine (Bool.not_eq_true _).mp fun hsep => ?_
  have hblank := isBlank_of_isNameChar hc
  rw [isBlank_of_isSeparator hsep] at hblank
  cases hblank

/-- Whether a tag name can end in front of `c`. -/
def endsTagName (c : Char) : Bool :=
  isBlank c || c == '/' || c == '>'

theorem endsTagName_of_isSeparator {c : Char} (hc : isSeparator c = true) :
    endsTagName c = true := by
  rw [endsTagName, isBlank_of_isSeparator hc, Bool.true_or, Bool.true_or]

/-! ### The name in a region -/

/-- Whether a character belongs to a name that is read from a region. -/
def inRegionName (c : Char) : Bool :=
  !(c == '>' || c == '/' || c == '<' || isBlank c)

theorem inRegionName_of_isNameChar {c : Char} (hc : isNameChar c = true) :
    inRegionName c = true := by
  have hne : ∀ d, isNameChar d = false → (c == d) = false := fun d hd =>
    beq_eq_false_iff_ne.mpr (ne_of_isNameChar hc hd)
  rw [inRegionName, hne '>' (by decide), hne '/' (by decide), hne '<' (by decide),
    isBlank_of_isNameChar hc]
  rfl

/-- A name at the start of a region is not trimmed. -/
theorem regionName_name {name : List Char} (hname : NameText name) (cs : List Char) :
    regionName (name ++ cs) = (name ++ dropEndWhile isBlank cs).takeWhile inRegionName := by
  have hblank : ∀ c ∈ name, isBlank c = false :=
    fun c hc => isBlank_of_isNameChar (hname.chars c hc)
  have hlast : name.getLast?.any isBlank = false := by
    rw [Option.any_eq_false]
    exact fun c hc => by simpa using hblank c (List.mem_of_getLast? hc)
  have hslash : ∀ c ∈ name, (c == '/') = false := fun c hc =>
    beq_eq_false_iff_ne.mpr (ne_of_isNameChar (hname.chars c hc) (by decide))
  rw [regionName, trim, dropWhile_append_eq_self hname.ne_nil hblank, dropEndWhile_append hlast,
    dropWhile_append_eq_self hname.ne_nil hslash]
  rfl

theorem regionName_append {name cs : List Char} (hname : NameText name)
    (hcs : cs.head?.all endsTagName = true) : regionName (name ++ cs) = name := by
  -- trimming leaves the first character behind the name, or nothing
  have hstop : (dropEndWhile isBlank cs).head?.any inRegionName = false := by
    obtain ⟨tail, htail⟩ := isPrefix_dropEndWhile isBlank cs
    cases hrest : dropEndWhile isBlank cs with
    | nil => rfl
    | cons c rest =>
      rw [hrest] at htail
      rw [← htail] at hcs
      have hc : endsTagName c = true := hcs
      simp only [endsTagName, Bool.or_eq_true] at hc
      rcases hc with (hc | hc) | hc <;> simp [inRegionName, hc]
  rw [regionName_name hname, takeWhile_append_stop _ hstop, List.takeWhile_eq_self_iff]
  exact fun c hc => inRegionName_of_isNameChar (hname.chars c hc)

theorem behindClosingMark?_append {front : List Char} (hfront : '<' ∉ front) (cs : List Char) :
    behindClosingMark? (front ++ cs) = behindClosingMark? cs := by
  induction front with
  | nil => rfl
  | cons c front ih =>
    rw [List.mem_cons, not_or] at hfront
    rw [List.cons_append, behindClosingMark?.eq_3, ih hfront.2]
    exact fun rest hc _ => absurd hc.symm hfront.1

/-- A name behind a bracket makes no closing mark. -/
theorem behindClosingMark?_name {name : List Char} (hname : NameText name) (cs : List Char) :
    behindClosingMark? ('<' :: (name ++ cs)) = behindClosingMark? cs := by
  rw [behindClosingMark?.eq_3]
  · exact behindClosingMark?_append (hname.notMem (by decide)) cs
  · -- the name does not start with a slash
    intro rest _ hrest
    obtain ⟨c, more, rfl⟩ := List.exists_cons_of_ne_nil hname.ne_nil
    have hslash := ne_of_isNameChar (hname.chars c List.mem_cons_self)
      (show isNameChar '/' = false by decide)
    exact absurd (List.cons.inj hrest).1 hslash

/-- The region of a name starts with it and holds only what follows it. -/
theorem exists_nameRegion {name cs : List Char} (hname : NameText name)
    (hcs : '<' ∈ cs → cs.any isSeparator = true) :
    ∃ front, front <+: cs ∧ nameRegion (name ++ cs) = name ++ front := by
  unfold nameRegion
  split
  · next hany =>
    refine ⟨cs.takeWhile fun c => !isSeparator c, List.takeWhile_prefix _, ?_⟩
    refine List.takeWhile_append_of_pos fun c hc => ?_
    rw [isSeparator_of_isNameChar (hname.chars c hc)]
    rfl
  · next hany =>
    -- without a separator there is no further `<`, so no closing mark moves the region
    have hopen : '<' ∉ cs := by
      intro hmem
      apply hany
      rw [List.any_append, hcs hmem, Bool.or_true]
    have hmark : behindClosingMark? ('<' :: (name ++ cs)) = none := by
      have hnone := behindClosingMark?_append hopen []
      rw [List.append_nil] at hnone
      rw [behindClosingMark?_name hname, hnone, behindClosingMark?]
    refine ⟨cs.takeWhile (· != '>'), List.takeWhile_prefix _, ?_⟩
    rw [hmark, Option.getD_none]
    refine List.takeWhile_append_of_pos fun c hc => ?_
    simpa using ne_of_isNameChar (hname.chars c hc) (show isNameChar '>' = false by decide)

/-- **The name between two brackets** is the one behind the first of them. A further `<` does no
harm behind a separator. -/
theorem regionName_nameRegion {name cs : List Char} (hname : NameText name)
    (hhead : cs.head?.all endsTagName = true) (hcs : '<' ∈ cs → cs.any isSeparator = true) :
    regionName (nameRegion (name ++ cs)) = name := by
  obtain ⟨front, ⟨tail, rfl⟩, hregion⟩ := exists_nameRegion hname hcs
  rw [hregion]
  refine regionName_append hname ?_
  cases front with
  | nil => rfl
  | cons c front => exact hhead

end Cursor

/-! ### The tag around the cursor -/

open Cursor

theorem Document.Splits.enclosingTag?_eq {doc : Document} {above : List (List Char)}
    {before after : List Char} (h : doc.Splits above before after) {pre inner name cs : List Char}
    (htext : unlines above ++ before = pre ++ '<' :: inner) (hopen : '<' ∉ inner)
    (hinner : inner ++ throughBracket after = name ++ cs) (hname : NameText name)
    (hhead : cs.head?.all endsTagName = true) (hcs : '<' ∈ cs → cs.any isSeparator = true) :
    doc.enclosingTag? ⟨above.length, before.length⟩ = some (String.ofList name) := by
  have hcut : splitLast? (· == '<') (pre ++ '<' :: inner) = some (pre, '<' :: inner) := by
    refine splitLast?_append_cons (by decide) fun c hc => ?_
    simpa using fun heq : c = '<' => hopen (heq ▸ hc)
  simp only [enclosingTag?, h.clamp, h.textUntil, h.textFrom, htext, hcut, List.tail_cons, hinner,
    regionName_nameRegion hname hhead hcs]
  simp [hname.ne_nil]

end MarkupAssist
