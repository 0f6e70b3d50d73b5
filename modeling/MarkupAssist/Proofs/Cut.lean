import Mathlib.Data.List.Basic
import Mathlib.Data.List.TakeWhile
import MarkupAssist.Text.Split

/-!
# Where a text is cut

The cuts of `Text.Split` are recursive functions; proofs want to know them by
the two pieces. Each cut is determined by them: a piece without the property, and
an element that has it (`splitFirst?_append_cons`, `splitLast?_append_cons`).
The cut at the first element makes a piece before a delimiter unique
(`append_cons_unique`), which is what every quoted or delimited form of markup
relies on.
-/

namespace MarkupAssist.Text

variable {α : Type} {p : α → Bool}

/-! ### The first element -/

theorem splitFirst?_append_cons {xs ys : List α} {a : α} (hxs : ∀ x ∈ xs, p x = false)
    (ha : p a = true) : splitFirst? p (xs ++ a :: ys) = some (xs, a :: ys) := by
  induction xs with
  | nil => rw [List.nil_append, splitFirst?, if_pos ha]
  | cons x xs ih =>
    rw [List.cons_append, splitFirst?, if_neg (by simp [hxs x]),
      ih fun y hy => hxs y (List.mem_cons_of_mem _ hy)]
    rfl

theorem splitFirst?_eq_none {xs : List α} (hxs : ∀ x ∈ xs, p x = false) :
    splitFirst? p xs = none := by
  induction xs with
  | nil => rfl
  | cons x xs ih =>
    rw [splitFirst?, if_neg (by simp [hxs x]), ih fun y hy => hxs y (List.mem_cons_of_mem _ hy)]
    rfl

/-- The second piece starts with the element of the cut, and the first one has none. -/
theorem exists_of_splitFirst? {xs before after : List α}
    (h : splitFirst? p xs = some (before, after)) :
    (∀ x ∈ before, p x = false) ∧ ∃ a tail, after = a :: tail ∧ p a = true := by
  induction xs generalizing before with
  | nil => cases h
  | cons x xs ih =>
    rw [splitFirst?] at h
    split at h
    · next hx =>
      obtain ⟨rfl, rfl⟩ := Prod.mk.inj (Option.some.inj h)
      exact ⟨by simp, x, xs, rfl, hx⟩
    · next hx =>
      obtain ⟨⟨front, rest⟩, hcut, heq⟩ := Option.map_eq_some_iff.mp h
      obtain ⟨rfl, rfl⟩ := Prod.mk.inj heq
      obtain ⟨hfront, hrest⟩ := ih hcut
      refine ⟨?_, hrest⟩
      rintro y (_ | ⟨_, hy⟩)
      · simpa using hx
      · exact hfront y hy

/-- The piece before the first delimiter is unique. -/
theorem append_cons_unique [DecidableEq α] {xs xs' ys ys' : List α} {a : α} (hxs : a ∉ xs)
    (hxs' : a ∉ xs') (h : xs ++ a :: ys = xs' ++ a :: ys') : xs = xs' ∧ ys = ys' := by
  have hcut : ∀ zs rest : List α, a ∉ zs →
      splitFirst? (· == a) (zs ++ a :: rest) = some (zs, a :: rest) := by
    intro zs rest hzs
    refine splitFirst?_append_cons (fun z hz => ?_) (by simp)
    simpa using fun hza : z = a => hzs (hza ▸ hz)
  have hsame := (hcut xs ys hxs).symm.trans (h ▸ hcut xs' ys' hxs')
  simp only [Option.some.injEq, Prod.mk.injEq, List.cons.injEq, true_and] at hsame
  exact hsame

/-- An element that is not in the first piece of a text is in the second one. -/
theorem exists_of_append_eq {xs ys as bs : List α} {a : α} (h : xs ++ ys = as ++ a :: bs)
    (ha : a ∉ xs) : ∃ more, as = xs ++ more ∧ ys = more ++ a :: bs := by
  rcases List.append_eq_append_iff.mp h with ⟨more, has, hys⟩ | ⟨more, hxs, hbs⟩
  · exact ⟨more, has, hys⟩
  · cases more with
    | nil => exact ⟨[], by simpa using hxs.symm, hbs.symm⟩
    | cons b more =>
      -- otherwise the first piece reaches behind the element
      obtain ⟨rfl, -⟩ := List.cons.inj hbs
      exact absurd (hxs ▸ List.mem_append_right as List.mem_cons_self) ha

/-- Two cuts of one text: the first is further to the left, or they are the same, or the element of
the first one stands behind the second. -/
theorem append_cons_cases {xs xs' ys ys' : List α} {a a' : α}
    (h : xs' ++ a' :: ys' = xs ++ a :: ys) :
    xs'.length < xs.length ∨ xs' = xs ∧ a' = a ∨ a' ∈ ys := by
  rcases Nat.lt_trichotomy xs'.length xs.length with hlt | heq | hgt
  · exact .inl hlt
  · obtain ⟨hfront, htail⟩ := List.append_inj h heq
    exact .inr (.inl ⟨hfront, (List.cons.inj htail).1⟩)
  · rcases List.append_eq_append_iff.mp h with ⟨more, rfl, -⟩ | ⟨more, rfl, htail⟩
    · rw [List.length_append] at hgt
      omega
    · cases more with
      | nil => simp at hgt
      | cons c more =>
        obtain ⟨-, rfl⟩ := List.cons.inj htail
        exact .inr (.inr (by simp))

/-- A cut inside the middle one of three pieces. -/
theorem exists_of_append_middle {xs ys as bs cs : List α} (h : xs ++ ys = as ++ (bs ++ cs))
    (hlow : as.length ≤ xs.length) (hhigh : xs.length ≤ as.length + bs.length) :
    ∃ front back, bs = front ++ back ∧ xs = as ++ front ∧ ys = back ++ cs := by
  have hxs : as <+: xs ++ ys := h ▸ List.prefix_append _ _
  obtain ⟨front, rfl⟩ := List.prefix_of_prefix_length_le hxs (List.prefix_append _ _) hlow
  rw [List.append_assoc, List.append_cancel_left_eq] at h
  have hbs : front <+: bs ++ cs := h ▸ List.prefix_append _ _
  have hle : front.length ≤ bs.length := by
    rw [List.length_append] at hhigh
    omega
  obtain ⟨back, rfl⟩ := List.prefix_of_prefix_length_le hbs (List.prefix_append _ _) hle
  rw [List.append_assoc, List.append_cancel_left_eq] at h
  exact ⟨front, back, rfl, rfl, h⟩

/-! ### The last element -/

theorem splitLast?_eq_none {xs : List α} (hxs : ∀ x ∈ xs, p x = false) :
    splitLast? p xs = none := by
  induction xs with
  | nil => rfl
  | cons x xs ih =>
    have hx : p x = false := hxs x List.mem_cons_self
    simp [splitLast?, ih fun y hy => hxs y (List.mem_cons_of_mem _ hy), hx]

theorem splitLast?_append_cons {xs ys : List α} {a : α} (ha : p a = true)
    (hys : ∀ y ∈ ys, p y = false) : splitLast? p (xs ++ a :: ys) = some (xs, a :: ys) := by
  induction xs with
  | nil => simp [splitLast?, splitLast?_eq_none hys, ha]
  | cons x xs ih => simp [splitLast?, ih]

/-- The piece behind the last delimiter is unique. -/
theorem append_cons_unique_last [DecidableEq α] {xs xs' ys ys' : List α} {a : α} (hys : a ∉ ys)
    (hys' : a ∉ ys') (h : xs ++ a :: ys = xs' ++ a :: ys') : xs = xs' ∧ ys = ys' := by
  have hcut : ∀ front zs : List α, a ∉ zs →
      splitLast? (· == a) (front ++ a :: zs) = some (front, a :: zs) := by
    intro front zs hzs
    refine splitLast?_append_cons (by simp) fun z hz => ?_
    simpa using fun hza : z = a => hzs (hza ▸ hz)
  have hsame := (hcut xs ys hys).symm.trans (h ▸ hcut xs' ys' hys')
  simp only [Option.some.injEq, Prod.mk.injEq, List.cons.injEq, true_and] at hsame
  exact hsame

/-- A text with elements of a kind has a last one. -/
theorem exists_last {xs : List α} (h : ∃ x ∈ xs, p x = true) :
    ∃ front a back, xs = front ++ a :: back ∧ p a = true ∧ ∀ y ∈ back, p y = false := by
  induction xs with
  | nil =>
    obtain ⟨x, hx, -⟩ := h
    cases hx
  | cons x xs ih =>
    by_cases hlater : ∃ y ∈ xs, p y = true
    · obtain ⟨front, a, back, rfl, ha, hback⟩ := ih hlater
      exact ⟨x :: front, a, back, rfl, ha, hback⟩
    · -- no later element has the property, so the first one does
      have hnone : ∀ y ∈ xs, p y = false := by simpa using hlater
      obtain ⟨y, hy, hpy⟩ := h
      rcases List.mem_cons.mp hy with rfl | hy
      · exact ⟨[], y, xs, rfl, hpy, hnone⟩
      · exact absurd ⟨y, hy, hpy⟩ hlater

/-- Text without such elements does not move the cut. -/
theorem splitLast?_append_right (xs : List α) {ys : List α} (hys : ∀ y ∈ ys, p y = false) :
    splitLast? p (xs ++ ys) =
      (splitLast? p xs).map fun (before, after) => (before, after ++ ys) := by
  by_cases hxs : ∃ x ∈ xs, p x = true
  · obtain ⟨front, a, back, rfl, ha, hback⟩ := exists_last hxs
    rw [List.append_assoc, List.cons_append, splitLast?_append_cons ha hback,
      splitLast?_append_cons ha (List.forall_mem_append.mpr ⟨hback, hys⟩)]
    rfl
  · have hnone : ∀ x ∈ xs, p x = false := by simpa using hxs
    rw [splitLast?_eq_none hnone, splitLast?_eq_none (List.forall_mem_append.mpr ⟨hnone, hys⟩)]
    rfl

/-- The second piece starts with the element of the cut. -/
theorem exists_of_splitLast? {xs before after : List α}
    (h : splitLast? p xs = some (before, after)) : ∃ a tail, after = a :: tail ∧ p a = true := by
  induction xs generalizing before with
  | nil => cases h
  | cons x xs ih =>
    rw [splitLast?] at h
    split at h
    · next hcut =>
      obtain ⟨-, rfl⟩ := Prod.mk.inj (Option.some.inj h)
      exact ih hcut
    · split at h
      · next hx =>
        obtain ⟨-, rfl⟩ := Prod.mk.inj (Option.some.inj h)
        exact ⟨x, xs, rfl, hx⟩
      · cases h

/-! ### The longest run -/

theorem dropWhile_append_cons {xs ys : List α} {a : α} (hxs : ∀ x ∈ xs, p x = true)
    (ha : p a = false) : (xs ++ a :: ys).dropWhile p = a :: ys := by
  rw [List.dropWhile_append_of_pos hxs, List.dropWhile_cons_of_neg (by simp [ha])]

/-- What follows a text does not prolong the run at its start if it starts with
an element outside the run. -/
theorem takeWhile_append_stop (xs : List α) {ys : List α} (hys : ys.head?.any p = false) :
    (xs ++ ys).takeWhile p = xs.takeWhile p := by
  induction xs with
  | nil =>
    cases ys with
    | nil => rfl
    | cons y ys =>
      have hy : p y = false := hys
      rw [List.nil_append, List.takeWhile_cons_of_neg (by simp [hy]), List.takeWhile_nil]
  | cons x xs ih => rw [List.cons_append, List.takeWhile_cons, List.takeWhile_cons, ih]

theorem dropWhile_append_stop (xs : List α) {ys : List α} (hys : ys.head?.any p = false) :
    (xs ++ ys).dropWhile p = xs.dropWhile p ++ ys := by
  have h : (xs ++ ys).takeWhile p ++ (xs ++ ys).dropWhile p =
      xs.takeWhile p ++ (xs.dropWhile p ++ ys) := by
    rw [List.takeWhile_append_dropWhile, ← List.append_assoc, List.takeWhile_append_dropWhile]
  rw [takeWhile_append_stop xs hys] at h
  exact List.append_cancel_left h

theorem head?_dropWhile (p : α → Bool) (xs : List α) : (xs.dropWhile p).head?.any p = false := by
  have h := List.head?_dropWhile_not p xs
  cases hhead : (xs.dropWhile p).head? with
  | none => rfl
  | some x =>
    rw [hhead] at h
    exact h

theorem dropWhile_eq_self {xs : List α} (hxs : ∀ x ∈ xs, p x = false) : xs.dropWhile p = xs := by
  cases xs with
  | nil => rfl
  | cons x xs => rw [List.dropWhile_cons_of_neg (by simp [hxs x])]

theorem dropWhile_append_eq_self {xs ys : List α} (hne : xs ≠ []) (hxs : ∀ x ∈ xs, p x = false) :
    (xs ++ ys).dropWhile p = xs ++ ys := by
  obtain ⟨x, xs, rfl⟩ := List.exists_cons_of_ne_nil hne
  rw [List.cons_append, List.dropWhile_cons_of_neg (by simp [hxs x])]

theorem dropEndWhile_eq_self {xs : List α} (hxs : ∀ x ∈ xs, p x = false) :
    dropEndWhile p xs = xs := by
  rw [dropEndWhile, dropWhile_eq_self fun x hx => hxs x (List.mem_reverse.mp hx),
    List.reverse_reverse]

/-- Nothing is removed from a text by what follows it, if the text does not end with the run. -/
theorem dropEndWhile_append {xs : List α} (hxs : xs.getLast?.any p = false) (ys : List α) :
    dropEndWhile p (xs ++ ys) = xs ++ dropEndWhile p ys := by
  have hstop : xs.reverse.head?.any p = false := by rwa [List.head?_reverse]
  rw [dropEndWhile, List.reverse_append, dropWhile_append_stop _ hstop, List.reverse_append,
    List.reverse_reverse, dropEndWhile]

theorem isPrefix_dropEndWhile (p : α → Bool) (xs : List α) : dropEndWhile p xs <+: xs := by
  rw [dropEndWhile, ← List.reverse_suffix, List.reverse_reverse]
  exact List.dropWhile_suffix p

theorem dropEndWhile_append_takeEndWhile (p : α → Bool) (xs : List α) :
    dropEndWhile p xs ++ takeEndWhile p xs = xs := by
  rw [dropEndWhile, takeEndWhile, ← List.reverse_append, List.takeWhile_append_dropWhile,
    List.reverse_reverse]

/-- A text of the run only prolongs the run at the end of what stands in front of it. -/
theorem takeEndWhile_append_of_pos {xs ys : List α} (hys : ∀ y ∈ ys, p y = true) :
    takeEndWhile p (xs ++ ys) = takeEndWhile p xs ++ ys := by
  rw [takeEndWhile, List.reverse_append,
    List.takeWhile_append_of_pos fun y hy => hys y (List.mem_reverse.mp hy), List.reverse_append,
    List.reverse_reverse, takeEndWhile]

/-- The run at the end of a text, if nothing before it prolongs it. -/
theorem takeEndWhile_append {xs ys : List α} (hys : ∀ y ∈ ys, p y = true)
    (hxs : xs.getLast?.any p = false) : takeEndWhile p (xs ++ ys) = ys := by
  have hrun : xs.reverse.takeWhile p = [] := by
    rw [← List.head?_reverse] at hxs
    have h := takeWhile_append_stop [] hxs
    rwa [List.nil_append, List.takeWhile_nil] at h
  rw [takeEndWhile_append_of_pos hys, takeEndWhile, hrun, List.reverse_nil, List.nil_append]

/-- The run at the end of a text that has an element outside the run is one of its own. -/
theorem takeEndWhile_append_of_mem {xs ys : List α} {y : α} (hy : y ∈ ys) (hp : p y = false) :
    takeEndWhile p (xs ++ ys) = takeEndWhile p ys := by
  rw [takeEndWhile, takeEndWhile, List.reverse_append, List.takeWhile_append, if_neg]
  intro hlength
  have hall : ys.reverse.takeWhile p = ys.reverse := (List.takeWhile_prefix p).eq_of_length hlength
  have hmem : y ∈ ys.reverse.takeWhile p := by
    rw [hall]
    exact List.mem_reverse.mpr hy
  rw [List.mem_takeWhile_imp hmem] at hp
  cases hp

/-- The run at the end of a text reaches no further than the run in front of its last piece. -/
theorem takeEndWhile_append_suffix (p : α → Bool) (xs ys : List α) :
    takeEndWhile p (xs ++ ys) <:+ takeEndWhile p xs ++ ys := by
  by_cases hys : ∀ y ∈ ys, p y = true
  · rewrite [takeEndWhile_append_of_pos hys]
    exact List.suffix_rfl
  · obtain ⟨y, hy, hp⟩ : ∃ y ∈ ys, p y = false := by simpa using hys
    rw [takeEndWhile_append_of_mem hy hp]
    have hsuffix : takeEndWhile p ys <:+ ys :=
      ⟨dropEndWhile p ys, dropEndWhile_append_takeEndWhile p ys⟩
    exact hsuffix.trans (List.suffix_append _ _)

theorem takeEndWhile_subset (p : α → Bool) (xs : List α) : takeEndWhile p xs ⊆ xs := by
  intro x hx
  rw [← dropEndWhile_append_takeEndWhile p xs]
  exact List.mem_append_right _ hx

end MarkupAssist.Text
