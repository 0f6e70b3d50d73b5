import MarkupAssist.Text.Word

/-!
# Cutting text

Cuts of a list of characters at its first or last character of a kind, and the removal of blanks
and of repeated markers at its ends. All of them are total and structural:

* `splitFirst?` and `splitLast?` cut in front of the first or the last character with a property;
* `pieces` cuts at every character with a property and leaves it out;
* `dropEndWhile` and `takeEndWhile` do at the end what `List.dropWhile` and `List.takeWhile` do at
  the start;
* `trim` removes blanks at both ends;
* `dropRepeated` removes a marker from the front as often as it stands there.
-/

namespace MarkupAssist.Text

/-- Cut in front of the first element with property `p`; `none` if there is no such element. -/
def splitFirst? {α : Type} (p : α → Bool) : List α → Option (List α × List α)
  | [] => none
  | x :: xs =>
    if p x then some ([], x :: xs)
    else (splitFirst? p xs).map fun (before, after) => (x :: before, after)

/-- Cut in front of the last element with property `p`; `none` if there is no such element. -/
def splitLast? {α : Type} (p : α → Bool) : List α → Option (List α × List α)
  | [] => none
  | x :: xs =>
    match splitLast? p xs with
    | some (before, after) => some (x :: before, after)
    | none => if p x then some ([], x :: xs) else none

/-- The pieces between the elements with property `p`, which are left out. There is always one piece
more than there are such elements. -/
def pieces {α : Type} (p : α → Bool) : List α → List (List α)
  | [] => [[]]
  | x :: xs =>
    match p x, pieces p xs with
    | true, rest => [] :: rest
    | false, piece :: rest => (x :: piece) :: rest
    | false, [] => [[x]]

/-- Remove the longest suffix whose elements all have property `p`. -/
def dropEndWhile {α : Type} (p : α → Bool) (xs : List α) : List α :=
  (xs.reverse.dropWhile p).reverse

/-- The longest suffix whose elements all have property `p`. -/
def takeEndWhile {α : Type} (p : α → Bool) (xs : List α) : List α :=
  (xs.reverse.takeWhile p).reverse

/-- Remove the blanks at both ends. -/
def trim (cs : List Char) : List Char :=
  dropEndWhile isBlank (cs.dropWhile isBlank)

/-- Remove the marker `first :: more` from the front as often as it stands there. -/
def dropRepeated (first : Char) (more : List Char) : List Char → List Char
  | [] => []
  | c :: rest =>
    if c == first && more.isPrefixOf rest then dropRepeated first more (rest.drop more.length)
    else c :: rest
termination_by cs => cs.length
decreasing_by exact Nat.lt_succ_of_le (by simp)

/-- A cut loses nothing. -/
theorem splitFirst?_append {α : Type} {p : α → Bool} {xs before after : List α}
    (h : splitFirst? p xs = some (before, after)) : before ++ after = xs := by
  induction xs generalizing before with
  | nil => simp [splitFirst?] at h
  | cons x xs ih =>
    rw [splitFirst?] at h
    split at h
    · simp only [Option.some.injEq, Prod.mk.injEq] at h
      simp [← h.1, ← h.2]
    · simp only [Option.map_eq_some_iff, Prod.exists, Prod.mk.injEq] at h
      obtain ⟨b, a, hs, rfl, rfl⟩ := h
      simp [ih hs]

/-- A cut loses nothing. -/
theorem splitLast?_append {α : Type} {p : α → Bool} {xs before after : List α}
    (h : splitLast? p xs = some (before, after)) : before ++ after = xs := by
  induction xs generalizing before with
  | nil => simp [splitLast?] at h
  | cons x xs ih =>
    rw [splitLast?] at h
    split at h
    · next b a hs =>
      simp only [Option.some.injEq, Prod.mk.injEq] at h
      obtain ⟨rfl, rfl⟩ := h
      simp [ih hs]
    · split at h
      · simp only [Option.some.injEq, Prod.mk.injEq] at h
        simp [← h.1, ← h.2]
      · simp at h

end MarkupAssist.Text
