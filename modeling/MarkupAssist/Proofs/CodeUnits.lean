import Mathlib.Order.Bounds.Basic
import MarkupAssist.Editor.Position
import MarkupAssist.Proofs.Offsets

/-!
# Characters and 16-bit units

An editor holds a text as a list of 16-bit units, in which a character outside the basic plane is a
pair of surrogates. The library never builds that list, it only counts its units. This module gives
the list itself, so that what the editor's numbers mean can be said on the editor's side.

* `Text.units`: the units of a text, as many as `Text.size` counts (`Text.length_units`).
* `Text.IsBoundary`: a place between two characters. No such place is inside a pair of surrogates
  (`Text.IsBoundary.not_insidePair`), since no character starts with a low surrogate.
* `Text.covering_le_iff`: counting characters up to a unit is adjoint to counting the units of
  characters. That the count rounds up to the next boundary (`Text.isLeast_covering`) and that it
  undoes the other count (`Text.covering_size_take`) both rest on this recursion.

`editor_positions_round` is what this means for the positions of a document.
-/

namespace MarkupAssist

namespace Text

/-! ### Units of a text -/

/-- The units of a character: its code, or a high and a low surrogate that share the bits of a code
outside the basic plane. -/
def charUnits (c : Char) : List UInt16 :=
  if c.toNat < 0x10000 then [c.toNat.toUInt16]
  else [(0xd800 + (c.toNat - 0x10000) / 0x400).toUInt16,
    (0xdc00 + (c.toNat - 0x10000) % 0x400).toUInt16]

/-- The units of a text. -/
def units (cs : List Char) : List UInt16 :=
  cs.flatMap charUnits

theorem units_append (cs ds : List Char) : units (cs ++ ds) = units cs ++ units ds :=
  List.flatMap_append

theorem length_charUnits (c : Char) : (charUnits c).length = utf16Width c := by
  unfold charUnits utf16Width
  split <;> rfl

/-- **A text has as many units as are counted.** -/
theorem length_units (cs : List Char) : (units cs).length = size utf16Width cs := by
  induction cs with
  | nil => rfl
  | cons c cs ih =>
    show (charUnits c ++ units cs).length = _
    rw [List.length_append, length_charUnits, ih, size_cons]

example : units "é😀\n".toList = [0xe9, 0xd83d, 0xde00, 0x0a] := by decide

theorem utf16Width_pos (c : Char) : 0 < utf16Width c := by
  unfold utf16Width
  split <;> decide

/-- The units between two places of a text that are given by characters. -/
theorem units_between {start stop : Nat} (hle : start ≤ stop) (cs : List Char) :
    ((units cs).take (units (cs.take stop)).length).drop (units (cs.take start)).length =
      units ((cs.take stop).drop start) := by
  have hstop : units cs = units (cs.take stop) ++ units (cs.drop stop) := by
    rw [← units_append, List.take_append_drop]
  have hstart : units (cs.take stop) =
      units (cs.take start) ++ units ((cs.take stop).drop start) := by
    have htake : (cs.take stop).take start = cs.take start := by
      rw [List.take_take, Nat.min_eq_left hle]
    rw [← units_append, ← htake, List.take_append_drop]
  rw [hstop, List.take_left, hstart, List.drop_left]

/-! ### Pairs of surrogates -/

/-- The first unit of a pair. -/
def IsHighSurrogate (u : UInt16) : Prop :=
  0xd800 ≤ u.toNat ∧ u.toNat < 0xdc00

/-- The second unit of a pair. -/
def IsLowSurrogate (u : UInt16) : Prop :=
  0xdc00 ≤ u.toNat ∧ u.toNat < 0xe000

/-- A place of a list of units is between the two units of a pair. -/
def InsidePair (us : List UInt16) (place : Nat) : Prop :=
  ∃ front high low back, us = front ++ high :: low :: back ∧ place = front.length + 1 ∧
    IsHighSurrogate high ∧ IsLowSurrogate low

/-- A place of the units of a text is between two characters, or at one of its ends. -/
def IsBoundary (cs : List Char) (place : Nat) : Prop :=
  ∃ front, front <+: cs ∧ (units front).length = place

theorem isBoundary_take (cs : List Char) (n : Nat) :
    IsBoundary cs (size utf16Width (cs.take n)) :=
  ⟨cs.take n, List.take_prefix n cs, length_units _⟩

/-- No character starts with a low surrogate: codes of surrogates are not codes of characters. -/
theorem not_isLowSurrogate_head (c : Char) :
    ∃ first rest, charUnits c = first :: rest ∧ ¬ IsLowSurrogate first := by
  have hvalid : c.toNat < 0xd800 ∨ 0xdfff < c.toNat ∧ c.toNat < 0x110000 := c.valid
  unfold charUnits
  split
  · next hbasic =>
    refine ⟨_, _, rfl, ?_⟩
    rw [IsLowSurrogate, Nat.toUInt16, UInt16.toNat_ofNat_of_lt' hbasic]
    omega
  · next hother =>
    -- the ten bits of the first surrogate stop short of the low ones
    have hbits : 0xd800 + (c.toNat - 0x10000) / 0x400 < 0xdc00 := by omega
    refine ⟨_, _, rfl, ?_⟩
    rw [IsLowSurrogate, Nat.toUInt16, UInt16.toNat_ofNat_of_lt' (Nat.lt_trans hbits (by decide))]
    omega

/-- **A place between two characters is inside no pair.** -/
theorem IsBoundary.not_insidePair {cs : List Char} {place : Nat} (h : IsBoundary cs place) :
    ¬ InsidePair (units cs) place := by
  obtain ⟨before, ⟨after, rfl⟩, rfl⟩ := h
  rintro ⟨front, high, low, back, hunits, hplace, -, hlow⟩
  -- the unit behind the place is the first one of the text behind it
  have hnext : (units after).head? = some low := by
    have hget : (units (before ++ after))[(units before).length]? = some low := by
      rw [hunits, hplace, List.getElem?_append_right (Nat.le_succ _)]
      simp
    rwa [units_append, List.getElem?_append_right (Nat.le_refl _), Nat.sub_self,
      ← List.head?_eq_getElem?] at hget
  cases after with
  | nil => cases hnext
  | cons c after =>
    obtain ⟨first, rest, hfirst, hnot⟩ := not_isLowSurrogate_head c
    have hhead : (units (c :: after)).head? = some first := by
      show (charUnits c ++ units after).head? = _
      rw [hfirst]
      rfl
    rw [hhead] at hnext
    exact hnot (Option.some.inj hnext ▸ hlow)

/-! ### Characters up to a unit -/

section Covering

variable {width : Char → Nat}

theorem covering_cons {target : Nat} (hpos : 0 < target) (c : Char) (cs : List Char) :
    covering width target (c :: cs) = covering width (target - width c) cs + 1 := by
  obtain ⟨n, rfl⟩ := Nat.exists_eq_add_one.mpr hpos
  rfl

theorem covering_le_length (target : Nat) (cs : List Char) :
    covering width target cs ≤ cs.length := by
  induction cs generalizing target with
  | nil => exact Nat.le_refl _
  | cons c cs ih =>
    cases target with
    | zero => exact Nat.zero_le _
    | succ target => exact Nat.succ_le_succ (ih _)

/-- **Few characters cover a target exactly if they have that many units.** The text has to go on
behind them, since at its end the count stops in any case. -/
theorem covering_le_iff {target k : Nat} {cs : List Char} (hk : k < cs.length) :
    covering width target cs ≤ k ↔ target ≤ size width (cs.take k) := by
  induction cs generalizing target k with
  | nil => exact absurd hk (Nat.not_lt_zero k)
  | cons c cs ih =>
    cases target with
    | zero => exact ⟨fun _ => Nat.zero_le _, fun _ => Nat.zero_le _⟩
    | succ target =>
      rw [covering_cons (Nat.succ_pos target)]
      cases k with
      | zero =>
        rw [List.take_zero, size_nil]
        omega
      | succ k =>
        rw [List.length_cons] at hk
        rw [Nat.add_le_add_iff_right, ih (Nat.lt_of_succ_lt_succ hk), List.take_succ_cons,
          size_cons]
        omega

/-- The units of a number of characters are covered by just these characters. -/
theorem covering_size_take (hpos : ∀ c, 0 < width c) (n : Nat) (cs : List Char) :
    covering width (size width (cs.take n)) cs = min n cs.length := by
  induction cs generalizing n with
  | nil => exact (Nat.min_zero n).symm
  | cons c cs ih =>
    cases n with
    | zero =>
      rw [List.take_zero, Nat.zero_min]
      rfl
    | succ n =>
      rw [List.take_succ_cons, size_cons, covering_cons (Nat.add_pos_left (hpos c) _),
        Nat.add_sub_cancel_left, ih, List.length_cons, Nat.add_min_add_right]

theorem covering_eq_length {target : Nat} {cs : List Char} (h : size width cs < target) :
    covering width target cs = cs.length := by
  refine Nat.le_antisymm (covering_le_length target cs) (Nat.not_lt.mp fun hlt => ?_)
  have hcovered := (covering_le_iff hlt).mp (Nat.le_refl _)
  have hwhole : size width (cs.take (covering width target cs)) ≤ size width cs :=
    size_mono (List.take_prefix _ cs)
  omega

theorem le_size_take_covering {target : Nat} {cs : List Char} (h : target ≤ size width cs) :
    target ≤ size width (cs.take (covering width target cs)) := by
  have hlength : covering width target cs ≤ cs.length := covering_le_length target cs
  rcases Nat.lt_or_eq_of_le hlength with hlt | heq
  · exact (covering_le_iff hlt).mp (Nat.le_refl _)
  · rwa [heq, List.take_length]

end Covering

/-- **The characters that cover a unit end at the first boundary that is not in front of it.** -/
theorem isLeast_covering {target place : Nat} {cs : List Char} (hplace : IsBoundary cs place)
    (hle : target ≤ place) :
    IsLeast {b | IsBoundary cs b ∧ target ≤ b}
      (size utf16Width (cs.take (covering utf16Width target cs))) := by
  constructor
  · refine ⟨isBoundary_take cs _, le_size_take_covering ?_⟩
    obtain ⟨front, hfront, rfl⟩ := hplace
    rw [length_units] at hle
    exact Nat.le_trans hle (size_mono hfront)
  · rintro b ⟨⟨front, hfront, rfl⟩, hb⟩
    rw [length_units] at hb ⊢
    have htake : front = cs.take front.length := List.prefix_iff_eq_take.mp hfront
    -- a boundary that is far enough is not passed by
    have hcovering : covering utf16Width target cs ≤ front.length := by
      rcases Nat.lt_or_ge front.length cs.length with hlt | hge
      · rw [covering_le_iff hlt, ← htake]
        exact hb
      · exact Nat.le_trans (covering_le_length target cs) hge
    rw [htake]
    exact size_mono (List.take_prefix_take_left hcovering)

end Text

open Text

/-! ### Positions of an editor -/

/-- **Positions of a document and of an editor round into each other.** A position that goes to the
editor and back is moved to the end of its line at most, and to the start of a line that does not
exist. A place of the editor that is read and sent back is moved to the next boundary of its line,
or to the end of the line behind the last one, so it never ends inside a pair of surrogates. Reading
is adjoint to sending at every character of the line. -/
theorem editor_positions_round (doc : Document) :
    (∀ p : Position, doc.ofEditor (doc.toEditor p) =
      ⟨p.line, min p.character (doc.lineText p.line).length⟩) ∧
    (∀ p : Position, doc.lineCount ≤ p.line → doc.ofEditor (doc.toEditor p) = ⟨p.line, 0⟩) ∧
    (∀ q : EditorPosition,
      let line := doc.lineText q.line
      let rounded := (doc.toEditor (doc.ofEditor q)).character
      ((∃ b, IsBoundary line b ∧ q.character ≤ b) →
        IsLeast {b | IsBoundary line b ∧ q.character ≤ b} rounded) ∧
      ((¬ ∃ b, IsBoundary line b ∧ q.character ≤ b) → rounded = (units line).length) ∧
      ¬ InsidePair (units line) rounded) ∧
    (∀ (q : EditorPosition) (k : Nat), k < (doc.lineText q.line).length →
      ((doc.ofEditor q).character ≤ k ↔
        q.character ≤ (doc.toEditor ⟨q.line, k⟩).character)) := by
  have hback : ∀ p : Position, doc.ofEditor (doc.toEditor p) =
      ⟨p.line, min p.character (doc.lineText p.line).length⟩ := by
    intro p
    show Position.mk p.line _ = _
    rw [Position.mk.injEq]
    exact ⟨rfl, covering_size_take utf16Width_pos _ _⟩
  refine ⟨hback, fun p hp => ?_, fun q => ?_, fun q k hk => covering_le_iff hk⟩
  · have hline : doc.lineText p.line = [] := by
      rw [Document.lineText, Document.line?, List.getElem?_eq_none hp]
      rfl
    rw [hback, hline, List.length_nil, Nat.min_zero]
  · intro line rounded
    refine ⟨?_, ?_, (isBoundary_take line _).not_insidePair⟩
    · rintro ⟨b, hb, hle⟩
      exact isLeast_covering hb hle
    · intro hnone
      -- the end of the line is a boundary, so it is in front of the place
      have hend : size utf16Width line < q.character := by
        by_contra hle
        have hwhole := isBoundary_take line line.length
        rw [List.take_length] at hwhole
        exact hnone ⟨_, hwhole, Nat.not_lt.mp hle⟩
      show size utf16Width (line.take (covering utf16Width q.character line)) = _
      rw [covering_eq_length hend, List.take_length, length_units]

/-- A line that starts with a character outside the basic plane and ends with a carriage return. -/
def astralText : Document :=
  ⟨"😀é\r\nb".toList, "html"⟩

/-- A place inside the pair of the first character is moved behind it, a place behind the last
character to the end of the line, and the second line has one unit. -/
theorem editor_positions_round_astralText :
    astralText.ofEditor (astralText.toEditor ⟨0, 40⟩) = ⟨0, 2⟩ ∧
    astralText.ofEditor (astralText.toEditor ⟨7, 3⟩) = ⟨7, 0⟩ ∧
    IsLeast {b | IsBoundary "😀é".toList b ∧ 1 ≤ b} 2 ∧
    (astralText.toEditor (astralText.ofEditor ⟨0, 9⟩)).character = 3 ∧
    ¬ InsidePair (units "😀é".toList) 2 ∧
    ((astralText.ofEditor ⟨0, 1⟩).character ≤ 0 ↔ 1 ≤ (astralText.toEditor ⟨0, 0⟩).character) := by
  obtain ⟨hback, hpast, hround, hadjoint⟩ := editor_positions_round astralText
  obtain ⟨hleast, -, hpair⟩ := hround ⟨0, 1⟩
  refine ⟨hback ⟨0, 40⟩, hpast ⟨7, 3⟩ (by decide), ?_, ?_, hpair, hadjoint ⟨0, 1⟩ 0 (by decide)⟩
  · exact hleast ⟨3, ⟨"😀é".toList, List.prefix_rfl, by decide⟩, by decide⟩
  · refine (hround ⟨0, 9⟩).2.1 ?_
    rintro ⟨b, ⟨front, hfront, rfl⟩, hle⟩
    have hshort : size utf16Width front ≤ size utf16Width (astralText.lineText 0) :=
      size_mono hfront
    rw [length_units] at hle
    exact absurd (Nat.le_trans hle hshort) (by decide)

end MarkupAssist
