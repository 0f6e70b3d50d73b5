import MarkupAssist.Proofs.Offsets

/-!
# Clamping a position

`Document.clamp` moves a position onto existing text in two ways. On a line of the document it goes
back at most to the end of the line, which is in front of a carriage return. Past the last line it
goes to the end of the text, which is behind a carriage return. So the two ways disagree in one
case, and a second clamping then moves the position once more.

* `Document.PastReturn`: the position is past the last line of a text that ends with a carriage
  return. These are the positions whose place is behind a return (`behindReturn_offsetAt_iff`).
* `Document.clamp_clamp_iff`: for all others, clamping twice is clamping once.
* `Document.StandsAt`: the cut of the document that a position on one of its lines stands at. Every
  clamped position has one (`exists_standsAt_clamp`), and the slices around the position are the
  parts of the cut.
-/

namespace MarkupAssist

namespace Document

variable {doc : Document} {p : Position}

/-! ### Behind the last carriage return -/

/-- The position is past the last line of a text that ends with a carriage return. -/
def PastReturn (doc : Document) (p : Position) : Prop :=
  doc.lineCount ≤ p.line ∧ doc.chars.getLast? = some '\r'

instance (doc : Document) (p : Position) : Decidable (doc.PastReturn p) :=
  inferInstanceAs (Decidable (_ ∧ _))

theorem line?_eq_none_iff {n : Nat} : doc.line? n = none ↔ doc.lineCount ≤ n := by
  rw [line?, Option.map_eq_none_iff, List.getElem?_eq_none_iff, lineCount]

/-- A position stands for a place behind a carriage return that ends a line only if it is past the
last line. -/
theorem behindReturn_offsetAt_iff : doc.BehindReturn (doc.offsetAt p) ↔ doc.PastReturn p := by
  cases hline : doc.line? p.line with
  | some line =>
    -- on a line of the document clamping does not change the place
    have hexists : p.line < doc.lineCount := by
      rw [← Nat.not_le, ← line?_eq_none_iff, hline]
      exact Option.some_ne_none line
    constructor
    · intro hbehind
      have hmoved := offsetAt_positionAt_of_behindReturn hbehind
      rw [positionAt_offsetAt, offsetAt_clamp hline] at hmoved
      have hpos := hbehind.1
      omega
    · intro hpast
      exact absurd hpast.1 (Nat.not_le.mpr hexists)
  | none =>
    have hend : doc.offsetAt p = doc.chars.length := by rw [offsetAt, hline]
    rw [PastReturn, ← line?_eq_none_iff, List.getLast?_eq_getElem?, hend]
    constructor
    · exact fun hbehind => ⟨hline, hbehind.2.1⟩
    · rintro ⟨-, hreturn⟩
      refine ⟨?_, hreturn, .inl rfl⟩
      obtain ⟨hlt, -⟩ := List.getElem?_eq_some_iff.mp hreturn
      omega

/-- A place between two characters is one character behind the one before it. -/
theorem positionAt_succ {o : Nat} {c : Char} (hc : doc.chars[o]? = some c) :
    doc.positionAt (o + 1) = (doc.positionAt o).advance c := by
  rw [positionAt, List.take_add_one, hc, Position.advanceOver_append]
  rfl

/-- The place of a clamped position, if it is not behind a carriage return. -/
theorem offsetAt_clamp_eq (h : ¬ doc.PastReturn p) :
    doc.offsetAt (doc.clamp p) = doc.offsetAt p := by
  rw [← positionAt_offsetAt]
  refine offsetAt_positionAt_of_not_behindReturn (doc.offsetAt_le p) ?_
  rwa [behindReturn_offsetAt_iff]

/-- **Behind the last carriage return a second clamping goes back by one character.** -/
theorem clamp_of_pastReturn (h : doc.PastReturn p) :
    doc.clamp p = ⟨(doc.clamp (doc.clamp p)).line, (doc.clamp (doc.clamp p)).character + 1⟩ := by
  have hbehind := behindReturn_offsetAt_iff.mpr h
  have hback : doc.clamp (doc.clamp p) = doc.positionAt (doc.offsetAt p - 1) := by
    rw [← positionAt_offsetAt doc (doc.clamp p), ← positionAt_offsetAt doc p,
      offsetAt_positionAt_of_behindReturn hbehind]
  have hsucc : doc.offsetAt p = doc.offsetAt p - 1 + 1 := by
    have hpos := hbehind.1
    omega
  rw [hback, ← positionAt_offsetAt, hsucc, positionAt_succ hbehind.2.1]
  rfl

/-- **Clamping twice is clamping once**, except behind the last carriage return. -/
theorem clamp_clamp_iff : doc.clamp (doc.clamp p) = doc.clamp p ↔ ¬ doc.PastReturn p := by
  constructor
  · intro hsame hpast
    have hback := congrArg Position.character (clamp_of_pastReturn hpast)
    rw [hsame] at hback
    exact absurd hback (Nat.succ_ne_self _).symm
  · intro h
    rw [← positionAt_offsetAt doc (doc.clamp p), offsetAt_clamp_eq h, positionAt_offsetAt]

theorem clamp_eq_self_iff {line : List Char} (hline : doc.line? p.line = some line) :
    doc.clamp p = p ↔ p.character ≤ line.length := by
  rw [clamp, hline]
  constructor
  · intro hsame
    rw [← congrArg Position.character hsame]
    exact Nat.min_le_right _ _
  · intro hle
    simp only [Nat.min_eq_left hle]

/-! ### The cut at a position -/

/-- A position on a line of the document, with the cut that it stands at after clamping. -/
structure StandsAt (doc : Document) (p : Position) (above : List (List Char))
    (before after : List Char) : Prop where
  splits : doc.Splits above before after
  line_eq : p.line = above.length
  clamp_eq : doc.clamp p = ⟨above.length, before.length⟩

theorem exists_standsAt {line : List Char} (hline : doc.line? p.line = some line) :
    ∃ above before after, doc.StandsAt p above before after := by
  obtain ⟨above, before, after, hsplits, hclamp⟩ := exists_splits hline
  refine ⟨above, before, after, hsplits, ?_, hclamp⟩
  rw [clamp, hline] at hclamp
  exact congrArg Position.line hclamp

/-- Every position stands at a cut once it is clamped, also one past the last line. -/
theorem exists_standsAt_clamp (doc : Document) (p : Position) :
    ∃ above before after, doc.StandsAt (doc.clamp p) above before after := by
  obtain ⟨line, hline⟩ := doc.exists_line?_clamp p
  exact exists_standsAt hline

namespace StandsAt

variable {above : List (List Char)} {before after : List Char}
  (h : doc.StandsAt p above before after)

include h

theorem line? : doc.line? p.line = some (dropReturn (before ++ (breakLines after).1)) := by
  rw [h.line_eq, h.splits.line?]

theorem textBefore : doc.textBefore p = before := by
  rw [← textBefore_clamp h.line?, h.clamp_eq, h.splits.textBefore]

theorem offsetAt : doc.offsetAt p = (unlines above ++ before).length := by
  rw [← offsetAt_clamp h.line?, h.clamp_eq, h.splits.offsetAt]

theorem textUntil : doc.textUntil p = unlines above ++ before := by
  rw [← textUntil_clamp h.line?, h.clamp_eq, h.splits.textUntil]

theorem textFrom : doc.textFrom p = after := by
  rw [Document.textFrom, h.offsetAt, h.splits.chars, ← List.append_assoc, List.drop_left]

theorem textAfter : doc.textAfter p = doc.textAfter ⟨above.length, before.length⟩ := by
  rw [← textAfter_clamp h.line?, h.clamp_eq]

/-- Clamping the position keeps its cut. -/
theorem clamped : doc.StandsAt (doc.clamp p) above before after :=
  ⟨h.splits, by rw [h.clamp_eq], by rw [h.clamp_eq, h.splits.clamp]⟩

end StandsAt

theorem PastReturn.offsetAt (h : doc.PastReturn p) : doc.offsetAt p = doc.chars.length := by
  rw [Document.offsetAt, line?_eq_none_iff.mpr h.1]

/-- The cut of a position past the last carriage return is in front of the return. -/
theorem StandsAt.after_eq {above : List (List Char)} {before after : List Char}
    (h : doc.StandsAt (doc.clamp p) above before after) (hpast : doc.PastReturn p) :
    after = ['\r'] := by
  have hback := offsetAt_positionAt_of_behindReturn (behindReturn_offsetAt_iff.mpr hpast)
  have hchars : doc.chars = unlines above ++ before ++ after := by
    rw [h.splits.chars, List.append_assoc]
  have hlength : doc.chars.length = (unlines above ++ before).length + after.length := by
    rw [hchars, List.length_append]
  rw [positionAt_offsetAt, h.offsetAt, hpast.offsetAt] at hback
  have hpos : 0 < doc.chars.length := by
    have hbehind := (behindReturn_offsetAt_iff.mpr hpast).1
    rwa [hpast.offsetAt] at hbehind
  obtain ⟨c, rfl⟩ : ∃ c, after = [c] := List.length_eq_one_iff.mp (by omega)
  have hlast := hpast.2
  rw [hchars, List.getLast?_concat] at hlast
  rw [Option.some.inj hlast]

end Document

/-! ### What clamping guarantees -/

/-- **Clamping settles after one step, except behind the last carriage return.** A clamped position
is on a line of the document. It is not behind the text of that line, and clamping leaves it where
it is, exactly if the position was not past the last line of a text that ends with a carriage
return. In that case it is one character behind the text of the last line, and a second clamping
moves it back for good. -/
theorem clamping_settles (doc : Document) (p : Position) :
    (doc.clamp p).line < doc.lineCount ∧
    (doc.clamp (doc.clamp p) = doc.clamp p ↔ ¬ doc.PastReturn p) ∧
    ((doc.clamp p).character ≤ (doc.lineText (doc.clamp p).line).length ↔ ¬ doc.PastReturn p) ∧
    (doc.PastReturn p →
      (doc.clamp p).character = (doc.lineText (doc.clamp p).line).length + 1) ∧
    doc.clamp (doc.clamp (doc.clamp p)) = doc.clamp (doc.clamp p) := by
  obtain ⟨line, hline⟩ := doc.exists_line?_clamp p
  have htext : doc.lineText (doc.clamp p).line = line := by
    rw [Document.lineText, hline, Option.getD_some]
  have hwithin := Document.clamp_eq_self_iff hline
  rw [Document.clamp_clamp_iff] at hwithin
  refine ⟨?_, Document.clamp_clamp_iff, ?_, fun hpast => ?_, Document.clamp_clamp hline⟩
  · rw [← doc.positionAt_offsetAt p]
    exact doc.line_positionAt_lt _
  · rw [htext, hwithin]
  · -- the second clamping goes back to the end of the line, by one character
    have hout : ¬ (doc.clamp p).character ≤ line.length := fun hle => hwithin.mpr hle hpast
    have hback := congrArg Position.character (Document.clamp_of_pastReturn hpast)
    have hend : (doc.clamp (doc.clamp p)).character = line.length := by
      rw [Document.clamp, hline]
      exact Nat.min_eq_right (Nat.le_of_not_le hout)
    rw [htext, hback, hend]

/-- A position past the last line and one past the end of a line, in a text with a carriage return
at the end of both lines. -/
theorem clamping_settles_returnText :
    returnText.clamp ⟨7, 0⟩ = ⟨2, 2⟩ ∧ returnText.lineText 2 = ['b'] ∧
      (returnText.clamp ⟨7, 0⟩).character = (returnText.lineText 2).length + 1 ∧
      returnText.clamp (returnText.clamp ⟨0, 40⟩) = returnText.clamp ⟨0, 40⟩ := by
  refine ⟨by decide, by decide, ?_, ?_⟩
  · exact (clamping_settles returnText ⟨7, 0⟩).2.2.2.1 (by decide)
  · exact (clamping_settles returnText ⟨0, 40⟩).2.1.mpr (by decide)

/-- **A clamped position can lie behind the text of its line**, and then clamping moves it again. -/
theorem clamp_behind_return :
    returnText.clamp ⟨7, 0⟩ = ⟨2, 2⟩ ∧ returnText.clamp (returnText.clamp ⟨7, 0⟩) = ⟨2, 1⟩ ∧
      (returnText.lineText 2).length = 1 := by
  decide

end MarkupAssist
