import MarkupAssist.Proofs.Lines

/-!
# Positions, characters and bytes

A place in a document is a position, a number of characters before it, or a number of bytes before
it. The three are converted into each other along one fact: the position of a place is what the
origin becomes when it is moved over the text before the place, and it moves forward with every
character (`Position.lt_advanceOver`).

* `Document.positionAtByte_size`: a byte between two characters is found again by its position. This
  needs that every character has a byte (`Text.fitting_append`).
* `Document.positionAt_offsetAt`: a position leads to the place on existing text that it stands for.
* `Document.offsetAt_behindReturn`: the place behind the carriage return that ends a line has a
  position of its own, but that position stands for the end of the line in front of it. It is the
  only place that is not found again.
* `Document.clamp_mono`, `Document.offsetAt_mono`: later positions stand for later places.

`conversions_inverse` collects these.
-/

namespace MarkupAssist

/-! ### Bytes of a text -/

namespace Text

theorem utf8Width_eq (c : Char) : utf8Width c = c.utf8Size := by
  have hcode : ∀ n : Nat, n < 2 ^ 32 → (c.toNat < n + 1 ↔ c.val ≤ n.toUInt32) := by
    intro n hn
    rw [UInt32.le_iff_toNat_le, Nat.toUInt32, UInt32.toNat_ofNat_of_lt' hn]
    exact Nat.lt_succ_iff
  have h₁ := hcode 0x7f (by decide)
  have h₂ := hcode 0x7ff (by decide)
  have h₃ := hcode 0xffff (by decide)
  unfold utf8Width Char.utf8Size
  simp only [h₁, h₂, h₃]
  rfl

theorem size_eq_utf8ByteSize (cs : List Char) :
    size utf8Width cs = (String.ofList cs).utf8ByteSize := by
  induction cs with
  | nil => rfl
  | cons c cs ih =>
    rw [size_cons, String.ofList_cons, String.utf8ByteSize_append, String.utf8ByteSize_singleton,
      ih, utf8Width_eq]

theorem utf8Width_pos (c : Char) : 0 < utf8Width c := by
  rw [utf8Width_eq]
  exact c.utf8Size_pos

/-- As many characters fit into the units of a text as it has. -/
theorem fitting_append {width : Char → Nat} (hpos : ∀ c, 0 < width c) (front back : List Char) :
    fitting width (size width front) (front ++ back) = front.length := by
  induction front with
  | nil =>
    cases back with
    | nil => rfl
    | cons c back => exact if_neg (Nat.not_le.mpr (hpos c))
  | cons c front ih =>
    rw [List.cons_append, fitting, size_cons, if_pos (Nat.le_add_right _ _),
      Nat.add_sub_cancel_left, ih, List.length_cons]

theorem size_mono {width : Char → Nat} {front text : List Char} (h : front <+: text) :
    size width front ≤ size width text := by
  obtain ⟨rest, rfl⟩ := h
  rw [size_append]
  exact Nat.le_add_right _ _

end Text

open Text

/-! ### The order of positions -/

namespace Position

theorem not_lt {p q : Position} : ¬ p < q ↔ q ≤ p := by
  rw [lt_iff, le_iff]
  omega

theorem lt_trans {p q r : Position} (hpq : p < q) (hqr : q < r) : p < r := by
  rw [lt_iff] at *
  omega

theorem le_trans {p q r : Position} (hpq : p ≤ q) (hqr : q ≤ r) : p ≤ r := by
  rw [le_iff] at *
  omega

theorem le_of_lt {p q : Position} (h : p < q) : p ≤ q := by
  rw [lt_iff] at h
  rw [le_iff]
  omega

theorem lt_advance (p : Position) (c : Char) : p < p.advance c := by
  rw [lt_iff, advance]
  split
  · exact .inl (Nat.lt_succ_self _)
  · exact .inr ⟨rfl, Nat.lt_succ_self _⟩

/-- **Text moves a position forward.** -/
theorem lt_advanceOver (p : Position) {cs : List Char} (hne : cs ≠ []) : p < p.advanceOver cs := by
  induction cs generalizing p with
  | nil => exact absurd rfl hne
  | cons c cs ih =>
    show p < (p.advance c).advanceOver cs
    by_cases hcs : cs = []
    · subst hcs
      exact p.lt_advance c
    · exact lt_trans (p.lt_advance c) (ih _ hcs)

/-- A longer text moves a position further. -/
theorem advanceOver_lt (p : Position) {front text : List Char} (hfront : front <+: text)
    (hlength : front.length < text.length) : p.advanceOver front < p.advanceOver text := by
  obtain ⟨rest, rfl⟩ := hfront
  rw [advanceOver_append]
  refine lt_advanceOver _ ?_
  rintro rfl
  rw [List.append_nil] at hlength
  exact Nat.lt_irrefl _ hlength

end Position

/-! ### From positions to places and back -/

theorem breakLines_fst_eq_nil {cs : List Char} :
    (breakLines cs).1 = [] ↔ cs = [] ∨ cs.head? = some '\n' := by
  cases cs with
  | nil => simp [breakLines]
  | cons c cs =>
    rw [breakLines]
    by_cases hc : c = '\n' <;> simp [hc]

namespace Document

variable (doc : Document)

theorem offsetAt_le (p : Position) : doc.offsetAt p ≤ doc.chars.length := by
  rw [← doc.length_textUntil p]
  exact (List.take_prefix _ _).length_le

/-- **A position leads to the place on existing text that it stands for.** -/
theorem positionAt_offsetAt (p : Position) : doc.positionAt (doc.offsetAt p) = doc.clamp p := by
  cases hline : doc.line? p.line with
  | none => rw [offsetAt, hline, clamp, hline, positionAt, List.take_length, endPosition]
  | some line =>
    obtain ⟨above, before, after, hsplits, hclamp⟩ := exists_splits hline
    rw [← offsetAt_clamp hline, hclamp, hsplits.offsetAt, hsplits.positionAt]

/-- The position of a place is on a line of the document. -/
theorem line_positionAt_lt (o : Nat) :
    (doc.positionAt o).line < doc.lineCount := by
  have hcount : (doc.chars.take o).count '\n' ≤ doc.chars.count '\n' :=
    (List.take_sublist o doc.chars).count_le '\n'
  rw [positionAt, Position.line_advanceOver, lineCount_eq]
  show 0 + _ < _
  omega

variable {doc}

/-- **A byte between two characters has the position of the text before it.** -/
theorem positionAtByte_size {front back : List Char} (hchars : doc.chars = front ++ back) :
    doc.positionAtByte (size utf8Width front) = Position.origin.advanceOver front := by
  rw [positionAtByte, hchars, fitting_append utf8Width_pos, positionAt, hchars, List.take_left]

theorem positionAtByte_byteOffset (doc : Document) (p : Position) :
    doc.positionAtByte (doc.byteOffset p) = doc.clamp p := by
  rw [byteOffset, positionAtByte_size (List.take_append_drop _ _).symm, ← doc.positionAt_offsetAt p,
    positionAt]

/-- The position behind the carriage return at the end of a line stands for the place in front of
it. -/
theorem offsetAt_behindReturn {front back : List Char} (hchars : doc.chars = front ++ '\r' :: back)
    (hback : back = [] ∨ back.head? = some '\n') :
    doc.offsetAt (doc.positionAt (front.length + 1)) = front.length := by
  obtain ⟨above, before, rfl, hsplits⟩ := exists_splits_of_append hchars fun hnil => by
    rcases breakLines_fst_eq_nil.mp hnil with hnil | hfeed
    · cases hnil
    · exact absurd (Option.some.inj hfeed) (by decide)
  have hline : doc.line? above.length = some before := by
    have hreturn : (breakLines ('\r' :: back)).1 = ['\r'] :=
      congrArg ('\r' :: ·) (breakLines_fst_eq_nil.mpr hback)
    rw [hsplits.line?, hreturn, dropReturn, if_pos List.getLast?_concat, List.dropLast_concat]
  have hposition : doc.positionAt ((unlines above ++ before).length + 1) =
      ⟨above.length, before.length + 1⟩ := by
    have hbefore : '\n' ∉ before ++ ['\r'] := by simp [hsplits.before_line]
    have hlength : (unlines above ++ before).length + 1 =
        (unlines above ++ (before ++ ['\r'])).length := by simp [Nat.add_assoc]
    rw [positionAt, hchars, List.append_cons, List.append_assoc (unlines above), hlength,
      List.take_left, Position.advanceOver_origin hsplits.above_lines hbefore, List.length_append]
    rfl
  rw [hposition, offsetAt, hline, hsplits.lineStart]
  simp

/-- The place `o` is behind a carriage return that ends a line or the text. -/
def BehindReturn (doc : Document) (o : Nat) : Prop :=
  0 < o ∧ doc.chars[o - 1]? = some '\r' ∧
    (o = doc.chars.length ∨ doc.chars[o]? = some '\n')

theorem offsetAt_positionAt_of_behindReturn {o : Nat} (h : doc.BehindReturn o) :
    doc.offsetAt (doc.positionAt o) = o - 1 := by
  obtain ⟨hpos, hreturn, hend⟩ := h
  obtain ⟨n, rfl⟩ := Nat.exists_eq_add_one.mpr hpos
  rw [Nat.add_sub_cancel] at hreturn ⊢
  obtain ⟨hlt, hchar⟩ := List.getElem?_eq_some_iff.mp hreturn
  have hlength : (doc.chars.take n).length = n := by
    rw [List.length_take, Nat.min_eq_left (Nat.le_of_lt hlt)]
  have hchars : doc.chars = doc.chars.take n ++ '\r' :: doc.chars.drop (n + 1) := by
    rw [← hchar, List.getElem_cons_drop, List.take_append_drop]
  have hback : doc.chars.drop (n + 1) = [] ∨ (doc.chars.drop (n + 1)).head? = some '\n' := by
    rw [List.head?_drop]
    exact hend.imp (fun heq => List.drop_eq_nil_of_le (Nat.le_of_eq heq.symm)) id
  have hfound := offsetAt_behindReturn hchars hback
  rwa [hlength] at hfound

theorem offsetAt_positionAt_of_not_behindReturn {o : Nat} (ho : o ≤ doc.chars.length)
    (h : ¬ doc.BehindReturn o) : doc.offsetAt (doc.positionAt o) = o := by
  have hlength : (doc.chars.take o).length = o := by rw [List.length_take, Nat.min_eq_left ho]
  have hfound := offsetAt_positionAt (List.take_append_drop o doc.chars).symm fun hnil hreturn => by
    have hpos : 0 < o := by
      rw [Nat.pos_iff_ne_zero]
      rintro rfl
      cases hreturn
    refine h ⟨hpos, ?_, ?_⟩
    · rwa [List.getLast?_eq_getElem?, hlength, List.getElem?_take_of_lt (by omega)] at hreturn
    · rw [← List.head?_drop]
      refine (breakLines_fst_eq_nil.mp hnil).imp (fun hempty => ?_) id
      exact Nat.le_antisymm ho (List.drop_eq_nil_iff.mp hempty)
  rwa [hlength] at hfound

/-! ### Later positions are later places -/

/-- **Positions grow from character to character.** -/
theorem positionAtByte_lt {front back front' back' : List Char} (hchars : doc.chars = front ++ back)
    (hchars' : doc.chars = front' ++ back') (hlt : size utf8Width front < size utf8Width front') :
    doc.positionAtByte (size utf8Width front) < doc.positionAtByte (size utf8Width front') := by
  rw [positionAtByte_size hchars, positionAtByte_size hchars']
  have hfront : front <+: doc.chars := ⟨back, hchars.symm⟩
  have hfront' : front' <+: doc.chars := ⟨back', hchars'.symm⟩
  -- were the second text not longer, it would not take more bytes
  have hlength : front.length < front'.length := by
    by_contra hle
    have hshorter := List.prefix_of_prefix_length_le hfront' hfront (Nat.not_lt.mp hle)
    exact absurd (size_mono hshorter) (Nat.not_le.mpr hlt)
  have hlonger := List.prefix_of_prefix_length_le hfront hfront' (Nat.le_of_lt hlength)
  exact Position.advanceOver_lt _ hlonger hlength

theorem positionAt_lt {o o' : Nat} (hlt : o < o') (hle : o' ≤ doc.chars.length) :
    doc.positionAt o < doc.positionAt o' := by
  refine Position.advanceOver_lt _ (List.take_prefix_take_left (Nat.le_of_lt hlt)) ?_
  rw [List.length_take, List.length_take]
  omega

theorem clamp_le_endPosition (doc : Document) (p : Position) : doc.clamp p ≤ doc.endPosition := by
  have hend : doc.endPosition = doc.positionAt doc.chars.length := by
    rw [positionAt, List.take_length, endPosition]
  rw [← doc.positionAt_offsetAt p, hend]
  rcases Nat.lt_or_eq_of_le (doc.offsetAt_le p) with hlt | heq
  · exact Position.le_of_lt (positionAt_lt hlt (Nat.le_refl _))
  · rw [heq, Position.le_iff]
    exact .inr ⟨rfl, Nat.le_refl _⟩

theorem line?_isSome_of_le {n m : Nat} (hle : n ≤ m) {line : List Char}
    (hline : doc.line? m = some line) : ∃ line', doc.line? n = some line' := by
  obtain ⟨raw, hraw, -⟩ := Option.map_eq_some_iff.mp hline
  obtain ⟨hm, -⟩ := List.getElem?_eq_some_iff.mp hraw
  exact ⟨_, by rw [line?, List.getElem?_eq_getElem (Nat.lt_of_le_of_lt hle hm), Option.map_some]⟩

/-- **Clamping keeps the order of positions.** -/
theorem clamp_mono {p q : Position} (hle : p ≤ q) : doc.clamp p ≤ doc.clamp q := by
  cases hq : doc.line? q.line with
  | none =>
    have hend : doc.clamp q = doc.endPosition := by rw [clamp, hq]
    rw [hend]
    exact doc.clamp_le_endPosition p
  | some line =>
    -- both lines exist, so only the characters are moved
    rw [Position.le_iff] at hle
    obtain ⟨line', hp⟩ := line?_isSome_of_le (show p.line ≤ q.line by omega) hq
    simp only [clamp, hp, hq, Position.le_iff]
    rcases hle with hlt | ⟨hsame, hle⟩
    · exact .inl hlt
    · rw [hsame, hq] at hp
      obtain rfl := Option.some.inj hp
      exact .inr ⟨hsame, by omega⟩

theorem offsetAt_mono {p q : Position} (hle : p ≤ q) : doc.offsetAt p ≤ doc.offsetAt q := by
  by_contra hlt
  have hclamp : doc.clamp q < doc.clamp p := by
    rw [← doc.positionAt_offsetAt p, ← doc.positionAt_offsetAt q]
    exact positionAt_lt (Nat.not_le.mp hlt) (doc.offsetAt_le p)
  exact Position.not_lt.mpr (clamp_mono hle) hclamp

end Document

/-! ### The conversions -/

/-- **The conversions are inverse to each other**, up to the carriage return that ends a line. A
position becomes the one it stands for, by characters and by bytes. A number of characters is found
again, except behind a carriage return at the end of a line or of the text, which is stripped.
Positions grow with the bytes at which characters start, and bytes with positions, past the end of a
line or of the text as well. -/
theorem conversions_inverse (doc : Document) :
    (∀ p, doc.positionAt (doc.offsetAt p) = doc.clamp p ∧
      doc.positionAtByte (doc.byteOffset p) = doc.clamp p) ∧
    (∀ o ≤ doc.chars.length,
      (doc.BehindReturn o → doc.offsetAt (doc.positionAt o) = o - 1) ∧
      (¬ doc.BehindReturn o → doc.offsetAt (doc.positionAt o) = o)) ∧
    (∀ b b' : Nat, String.Pos.Raw.IsValid doc.text ⟨b⟩ → String.Pos.Raw.IsValid doc.text ⟨b'⟩ →
      b < b' → doc.positionAtByte b < doc.positionAtByte b') ∧
    (∀ p q, p ≤ q → doc.byteOffset p ≤ doc.byteOffset q) := by
  refine ⟨fun p => ⟨doc.positionAt_offsetAt p, doc.positionAtByte_byteOffset p⟩, fun o ho => ?_,
    ?_, fun p q hle => ?_⟩
  · exact ⟨Document.offsetAt_positionAt_of_behindReturn,
      Document.offsetAt_positionAt_of_not_behindReturn ho⟩
  · intro b b' hb hb' hlt
    obtain ⟨n, rfl⟩ := String.Pos.Raw.isValid_ofList.mp hb
    obtain ⟨n', rfl⟩ := String.Pos.Raw.isValid_ofList.mp hb'
    rw [← size_eq_utf8ByteSize, ← size_eq_utf8ByteSize] at hlt ⊢
    exact Document.positionAtByte_lt (List.take_append_drop n _).symm
      (List.take_append_drop n' _).symm hlt
  · exact size_mono (List.take_prefix_take_left (Document.offsetAt_mono hle))

/-- A text with carriage returns at the end of a line, inside a line and at its own end. -/
def returnText : Document :=
  ⟨"é\r\n\rx\nb\r".toList, "html"⟩

/-- The places behind the first and the last carriage return are those in front of them; the one in
the middle is text. The first character has two bytes. -/
theorem conversions_inverse_returnText :
    returnText.positionAt (returnText.offsetAt ⟨7, 0⟩) = ⟨2, 2⟩ ∧
    returnText.positionAtByte (returnText.byteOffset ⟨0, 40⟩) = ⟨0, 1⟩ ∧
    returnText.offsetAt (returnText.positionAt 2) = 1 ∧
    returnText.offsetAt (returnText.positionAt 4) = 4 ∧
    returnText.offsetAt (returnText.positionAt 8) = 7 ∧
    returnText.positionAtByte 0 < returnText.positionAtByte 2 ∧
    returnText.byteOffset ⟨0, 40⟩ ≤ returnText.byteOffset ⟨7, 0⟩ := by
  obtain ⟨hposition, hoffset, hbyte, hmono⟩ := conversions_inverse returnText
  refine ⟨(hposition ⟨7, 0⟩).1, (hposition ⟨0, 40⟩).2, ?_, ?_, ?_, ?_, hmono _ _ (by decide)⟩
  · exact (hoffset 2 (by decide)).1 ⟨by decide, by decide, .inr (by decide)⟩
  · refine (hoffset 4 (by decide)).2 ?_
    rintro ⟨-, -, hend | hfeed⟩
    · exact absurd hend (by decide)
    · exact absurd hfeed (by decide)
  · exact (hoffset 8 (by decide)).1 ⟨by decide, by decide, .inl (by decide)⟩
  · exact hbyte 0 2 (String.Pos.Raw.isValid_ofList.mpr ⟨0, rfl⟩)
      (String.Pos.Raw.isValid_ofList.mpr ⟨1, by decide⟩) (by decide)

end MarkupAssist
