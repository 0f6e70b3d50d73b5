import Mathlib.Data.List.Pairwise
import Mathlib.Data.List.TakeWhile
import MarkupAssist.Markup.Occurrence
import MarkupAssist.Proofs.CharacterClass
import MarkupAssist.Proofs.Cut

/-!
# Attributes one by one

`attributeMatches` reads the body of a tag from left to right. The lemmas here
say what it does with one piece of a body and leave the rest of the body
untouched, so that a body is read by reading its pieces in order:

* a character that can start no attribute is passed over
  (`attributeMatches_pass`);
* a name is one match, with the value that is assigned to it
  (`attributeMatches_assigned`) or without one (`attributeMatches_bare`). A quoted
  value is such a value (`attributeMatches_quoted`).

In the other direction a match stands in the body, at its offset
(`mem_attributeMatches`), and is written as an attribute can be
(`attributeText_of_mem`).

An attribute name that carries no mark of a binding is its own name in the
occurrence (`dropValueBinding_eq_self`). Of the attributes with one name the last
one is kept (`keepLast_eq_pwFilter`), so nothing changes if no name is repeated
(`keepLast_eq_self`).
-/

namespace MarkupAssist.Markup

open Text

theorem isBlank_of_isAttributeChar {c : Char} (hc : isAttributeChar c = true) :
    isBlank c = false := by
  cases hblank : isBlank c with
  | false => rfl
  | true => simp [isAttributeChar, hblank] at hc

/-! ### Pieces of a body -/

theorem attributeMatches_pass {c : Char} (hc : isAttributeChar c = false) (offset : Nat)
    (cs : List Char) : attributeMatches offset (c :: cs) = attributeMatches (offset + 1) cs := by
  rw [attributeMatches.eq_def]
  exact if_neg (by simp [hc])

theorem attributeMatches_passAll {front : List Char}
    (hfront : ∀ c ∈ front, isAttributeChar c = false) (offset : Nat) (cs : List Char) :
    attributeMatches offset (front ++ cs) = attributeMatches (offset + front.length) cs := by
  induction front generalizing offset with
  | nil => rfl
  | cons c front ih =>
    rw [List.cons_append, attributeMatches_pass (hfront c List.mem_cons_self),
      ih fun d hd => hfront d (List.mem_cons_of_mem _ hd), List.length_cons, Nat.add_assoc,
      Nat.add_comm 1]

/-- A name with a value. The text behind the name must not prolong it. -/
theorem attributeMatches_assigned {name front value rest : List Char} (hne : name ≠ [])
    (hname : ∀ c ∈ name, isAttributeChar c = true)
    (hfront : (front ++ rest).takeWhile isAttributeChar = [])
    (hvalue : assigned? (front ++ rest) = some (value, rest)) (offset : Nat) :
    attributeMatches offset (name ++ (front ++ rest)) =
      ⟨offset, name, name ++ front, some value⟩ ::
        attributeMatches (offset + (name ++ front).length) rest := by
  obtain ⟨c, cs, rfl⟩ := List.exists_cons_of_ne_nil hne
  have hcs : ∀ d ∈ cs, isAttributeChar d = true := fun d hd => hname d (List.mem_cons_of_mem _ hd)
  have htake : (cs ++ (front ++ rest)).takeWhile isAttributeChar = cs := by
    rw [List.takeWhile_append_of_pos hcs, hfront, List.append_nil]
  have hdrop : (cs ++ (front ++ rest)).dropWhile isAttributeChar = front ++ rest := by
    rw [List.dropWhile_append_of_pos hcs,
      List.dropWhile_eq_self_iff.mpr (List.takeWhile_eq_nil_iff.mp hfront)]
  -- the scan measures a match by what is left of the text
  have hsize : (cs ++ (front ++ rest)).length + 1 - rest.length = (c :: cs ++ front).length := by
    simp only [List.length_append, List.length_cons]
    omega
  rw [List.cons_append, attributeMatches.eq_def]
  refine (if_pos (hname c List.mem_cons_self)).trans ?_
  split
  · next value' rest' h' =>
    rw [hdrop, hvalue] at h'
    obtain ⟨rfl, rfl⟩ : value = value' ∧ rest = rest' := by simpa using h'
    have htext :
        (c :: (cs ++ (front ++ rest))).take (c :: cs ++ front).length = c :: cs ++ front := by
      rw [← List.cons_append, ← List.append_assoc, List.take_left]
    rw [htake, hsize]
    simp only [htext]
  · next h' => rw [hdrop, hvalue] at h'; cases h'

/-- A name alone. -/
theorem attributeMatches_bare {name rest : List Char} (hne : name ≠ [])
    (hname : ∀ c ∈ name, isAttributeChar c = true)
    (hrest : rest.takeWhile isAttributeChar = []) (hvalue : assigned? rest = none)
    (offset : Nat) :
    attributeMatches offset (name ++ rest) =
      ⟨offset, name, name, none⟩ :: attributeMatches (offset + name.length) rest := by
  obtain ⟨c, cs, rfl⟩ := List.exists_cons_of_ne_nil hne
  have hcs : ∀ d ∈ cs, isAttributeChar d = true := fun d hd => hname d (List.mem_cons_of_mem _ hd)
  have htake : (cs ++ rest).takeWhile isAttributeChar = cs := by
    rw [List.takeWhile_append_of_pos hcs, hrest, List.append_nil]
  have hdrop : (cs ++ rest).dropWhile isAttributeChar = rest := by
    rw [List.dropWhile_append_of_pos hcs,
      List.dropWhile_eq_self_iff.mpr (List.takeWhile_eq_nil_iff.mp hrest)]
  rw [List.cons_append, attributeMatches.eq_def]
  refine (if_pos (hname c List.mem_cons_self)).trans ?_
  split
  · next h' => rw [hdrop, hvalue] at h'; cases h'
  · rw [htake, hdrop]

/-! ### What a match says about the body -/

/-- How a value is written: in quotes, in braces or bare. -/
inductive ValueText : List Char → List Char → Prop
  | quoted {quote : Char} {value : List Char} (hquote : isQuote quote = true)
      (hvalue : quote ∉ value) : ValueText (quote :: (value ++ [quote])) value
  | braced {value : List Char} (hvalue : '\x7d' ∉ value) :
      ValueText ('\x7b' :: (value ++ ['\x7d'])) value
  | bare {value : List Char} (hne : value ≠ []) (hvalue : ∀ c ∈ value, isBareValueChar c = true) :
      ValueText value value

namespace ValueText

variable {raw value : List Char} (h : ValueText raw value)

include h

/-- A value is written with its own characters and what encloses it. -/
theorem mem {c : Char} (hc : c ∈ raw) :
    c ∈ value ∨ isQuote c = true ∨ c = '\x7b' ∨ c = '\x7d' := by
  cases h with
  | quoted hquote =>
    simp only [List.mem_cons, List.mem_append, List.not_mem_nil, or_false] at hc
    rcases hc with rfl | hc | rfl
    · exact .inr (.inl hquote)
    · exact .inl hc
    · exact .inr (.inl hquote)
  | braced =>
    simp only [List.mem_cons, List.mem_append, List.not_mem_nil, or_false] at hc
    rcases hc with rfl | hc | rfl
    · exact .inr (.inr (.inl rfl))
    · exact .inl hc
    · exact .inr (.inr (.inr rfl))
  | bare => exact .inl hc

/-- The text of a value ends with no blank. -/
theorem exists_last : ∃ front c, raw = front ++ [c] ∧ isBlank c = false := by
  cases h with
  | @quoted quote value hquote =>
    refine ⟨quote :: value, quote, rfl, ?_⟩
    rcases eq_of_isQuote hquote with rfl | rfl <;> decide
  | braced => exact ⟨'\x7b' :: value, '\x7d', rfl, by decide⟩
  | bare hne hvalue =>
    obtain ⟨front, c, rfl⟩ := (List.eq_nil_or_concat' raw).resolve_left hne
    have hc : isBareValueChar c = true := hvalue c (by simp)
    refine ⟨front, c, rfl, ?_⟩
    cases hblank : isBlank c with
    | false => rfl
    | true => simp [isBareValueChar, hblank] at hc

end ValueText

theorem delimited?_eq_some {close : Char} {cs value rest : List Char}
    (h : delimited? close cs = some (value, rest)) :
    cs = value ++ close :: rest ∧ close ∉ value := by
  unfold delimited? at h
  split at h
  · next front c after hcut =>
    obtain ⟨rfl, rfl⟩ := Prod.mk.inj (Option.some.inj h)
    obtain ⟨hfront, d, tail, heq, hd⟩ := exists_of_splitFirst? hcut
    obtain ⟨rfl, rfl⟩ := List.cons.inj heq
    refine ⟨?_, fun hmem => ?_⟩
    · rw [← splitFirst?_append hcut, beq_iff_eq.mp hd]
    · simpa using hfront close hmem
  · cases h

theorem bareValue?_eq_some {cs value rest : List Char} (h : bareValue? cs = some (value, rest)) :
    cs = value ++ rest ∧ ValueText value value := by
  simp only [bareValue?] at h
  split at h
  · cases h
  · next hne =>
    obtain ⟨rfl, rfl⟩ := Prod.mk.inj (Option.some.inj h)
    refine ⟨List.takeWhile_append_dropWhile.symm, .bare ?_ fun c hc => List.mem_takeWhile_imp hc⟩
    simpa using hne

theorem value?_eq_some {cs value rest : List Char} (h : value? cs = some (value, rest)) :
    ∃ raw, cs = raw ++ rest ∧ ValueText raw value := by
  unfold value? at h
  split at h
  · obtain ⟨rfl, hvalue⟩ := delimited?_eq_some h
    exact ⟨_, by simp, .quoted (by decide) hvalue⟩
  · obtain ⟨rfl, hvalue⟩ := delimited?_eq_some h
    exact ⟨_, by simp, .quoted (by decide) hvalue⟩
  · -- a brace without its partner is part of a bare value
    rcases Option.or_eq_some_iff.1 h with h | ⟨-, h⟩
    · obtain ⟨rfl, hvalue⟩ := delimited?_eq_some h
      exact ⟨_, by simp, .braced hvalue⟩
    · exact ⟨value, bareValue?_eq_some h⟩
  · exact ⟨value, bareValue?_eq_some h⟩

/-- What is read as a value stands behind an equals sign, which may have blanks around it. -/
theorem assigned?_eq_some {cs value rest : List Char} (h : assigned? cs = some (value, rest)) :
    ∃ left right raw, cs = left ++ '=' :: (right ++ raw) ++ rest ∧
      (∀ c ∈ left, isBlank c = true) ∧ (∀ c ∈ right, isBlank c = true) ∧ ValueText raw value := by
  unfold assigned? at h
  split at h
  · next tail htail =>
    obtain ⟨raw, hraw, hvalue⟩ := value?_eq_some h
    refine ⟨cs.takeWhile isBlank, tail.takeWhile isBlank, raw, ?_,
      fun c hc => List.mem_takeWhile_imp hc, fun c hc => List.mem_takeWhile_imp hc, hvalue⟩
    have hsplit : cs = cs.takeWhile isBlank ++ '=' :: tail := by
      rw [← htail, List.takeWhile_append_dropWhile]
    have hsplit' : tail = tail.takeWhile isBlank ++ (raw ++ rest) := by
      rw [← hraw, List.takeWhile_append_dropWhile]
    simpa using hsplit.trans (congrArg (cs.takeWhile isBlank ++ '=' :: ·) hsplit')
  · cases h

/-- Induction along the scan of a body, one piece at a time. -/
theorem attributes_induction {motive : Nat → List Char → Prop} (nil : ∀ offset, motive offset [])
    (assigned : ∀ offset name front value rest, name ≠ [] →
      (∀ c ∈ name, isAttributeChar c = true) → (front ++ rest).takeWhile isAttributeChar = [] →
      assigned? (front ++ rest) = some (value, rest) →
      motive (offset + (name ++ front).length) rest → motive offset (name ++ (front ++ rest)))
    (bare : ∀ offset name rest, name ≠ [] → (∀ c ∈ name, isAttributeChar c = true) →
      rest.takeWhile isAttributeChar = [] → assigned? rest = none →
      motive (offset + name.length) rest → motive offset (name ++ rest))
    (pass : ∀ offset c cs, isAttributeChar c = false → motive (offset + 1) cs →
      motive offset (c :: cs)) (offset : Nat) (cs : List Char) : motive offset cs := by
  induction offset, cs using attributeMatches.induct with
  | case1 offset => exact nil offset
  | case2 offset c cs hc value rest hvalue size ih =>
    obtain ⟨left, right, raw, hassigned, -⟩ := assigned?_eq_some hvalue
    set front := left ++ '=' :: (right ++ raw)
    have hfront : front ++ rest = cs.dropWhile isAttributeChar := hassigned.symm
    have hsplit : c :: cs = (c :: cs.takeWhile isAttributeChar) ++ (front ++ rest) := by
      rw [hfront, List.cons_append, List.takeWhile_append_dropWhile]
    rw [hsplit]
    refine assigned offset _ front value rest (List.cons_ne_nil _ _) ?_ ?_ (hfront ▸ hvalue) ?_
    · simpa [hc] using fun d hd => List.mem_takeWhile_imp hd
    · rw [hfront]
      exact List.takeWhile_eq_nil_iff.mpr (List.dropWhile_get_zero_not isAttributeChar cs)
    · -- the size of the match, again measured by what is left
      convert ih using 2
      have hlength := congrArg List.length hsplit
      simp only [List.length_cons, List.length_append] at hlength ⊢
      omega
  | case3 offset c cs hc name hvalue ih =>
    have hsplit : c :: cs = name ++ cs.dropWhile isAttributeChar := by
      rw [List.cons_append, List.takeWhile_append_dropWhile]
    rw [hsplit]
    refine bare offset name _ (List.cons_ne_nil _ _) ?_ ?_ hvalue ih
    · simpa [name, hc] using fun d hd => List.mem_takeWhile_imp hd
    · exact List.takeWhile_eq_nil_iff.mpr (List.dropWhile_get_zero_not isAttributeChar cs)
  | case4 offset c cs hc ih => exact pass offset c cs (by simpa using hc) ih

/-- An attribute that is found stands in the body, at its offset. -/
theorem mem_attributeMatches {offset : Nat} {cs : List Char} {m : AttributeMatch}
    (hm : m ∈ attributeMatches offset cs) :
    ∃ before rest, cs = before ++ (m.text ++ rest) ∧ m.offset = offset + before.length := by
  induction offset, cs using attributes_induction with
  | nil offset =>
    rw [attributeMatches.eq_def] at hm
    cases hm
  | assigned offset name front value rest hne hname hfront hvalue ih =>
    rw [attributeMatches_assigned hne hname hfront hvalue] at hm
    rcases List.mem_cons.mp hm with rfl | hm
    · exact ⟨[], rest, by simp, rfl⟩
    · obtain ⟨before, after, rfl, hoffset⟩ := ih hm
      refine ⟨name ++ front ++ before, after, by simp, ?_⟩
      simp only [hoffset, List.length_append, Nat.add_assoc]
  | bare offset name rest hne hname hrest hvalue ih =>
    rw [attributeMatches_bare hne hname hrest hvalue] at hm
    rcases List.mem_cons.mp hm with rfl | hm
    · exact ⟨[], rest, rfl, rfl⟩
    · obtain ⟨before, after, rfl, hoffset⟩ := ih hm
      refine ⟨name ++ before, after, by simp, ?_⟩
      rw [hoffset, List.length_append, Nat.add_assoc]
  | pass offset c cs hc ih =>
    rw [attributeMatches_pass hc] at hm
    obtain ⟨before, after, rfl, hoffset⟩ := ih hm
    refine ⟨c :: before, after, rfl, ?_⟩
    rw [hoffset, List.length_cons]
    omega

/-- How an attribute is written: a name, and perhaps an equals sign with blanks around it and a
value. -/
inductive AttributeText (name : List Char) : List Char → Option (List Char) → Prop
  | bare : AttributeText name name none
  | assigned {left right raw value : List Char} (hleft : ∀ c ∈ left, isBlank c = true)
      (hright : ∀ c ∈ right, isBlank c = true) (hvalue : ValueText raw value) :
      AttributeText name (name ++ (left ++ '=' :: (right ++ raw))) (some value)

theorem attributeText_of_mem {offset : Nat} {cs : List Char} {m : AttributeMatch}
    (hm : m ∈ attributeMatches offset cs) :
    m.name ≠ [] ∧ (∀ c ∈ m.name, isAttributeChar c = true) ∧
      AttributeText m.name m.text m.value := by
  induction offset, cs using attributes_induction with
  | nil offset =>
    rw [attributeMatches.eq_def] at hm
    cases hm
  | assigned offset name front value rest hne hname hfront hvalue ih =>
    rw [attributeMatches_assigned hne hname hfront hvalue] at hm
    rcases List.mem_cons.mp hm with rfl | hm
    · obtain ⟨left, right, raw, heq, hleft, hright, hraw⟩ := assigned?_eq_some hvalue
      obtain rfl := List.append_cancel_right heq
      exact ⟨hne, hname, .assigned hleft hright hraw⟩
    · exact ih hm
  | bare offset name rest hne hname hrest hvalue ih =>
    rw [attributeMatches_bare hne hname hrest hvalue] at hm
    rcases List.mem_cons.mp hm with rfl | hm
    · exact ⟨hne, hname, .bare⟩
    · exact ih hm
  | pass offset c cs hc ih =>
    rw [attributeMatches_pass hc] at hm
    exact ih hm

/-! ### Values -/

theorem delimited?_append {close : Char} {value : List Char} (hvalue : close ∉ value)
    (rest : List Char) : delimited? close (value ++ close :: rest) = some (value, rest) := by
  rw [delimited?, splitFirst?_append_cons _ (by simp)]
  intro c hc
  simpa using fun h : c = close => hvalue (h ▸ hc)

theorem delimited?_eq_none {close : Char} {cs : List Char} (hcs : close ∉ cs) :
    delimited? close cs = none := by
  rw [delimited?, splitFirst?_eq_none]
  intro c hc
  simpa using fun h : c = close => hcs (h ▸ hc)

theorem assigned?_quoted {quote : Char} (hquote : isQuote quote = true) {value : List Char}
    (hvalue : quote ∉ value) (rest : List Char) :
    assigned? ('=' :: quote :: (value ++ quote :: rest)) = some (value, rest) := by
  have hblank : isBlank quote = false := by
    rcases eq_of_isQuote hquote with rfl | rfl <;> decide
  rw [assigned?, List.dropWhile_cons_of_neg (by decide)]
  change value? ((quote :: (value ++ quote :: rest)).dropWhile isBlank) = _
  rw [List.dropWhile_cons_of_neg (by simp [hblank])]
  rcases eq_of_isQuote hquote with rfl | rfl
  · exact delimited?_append hvalue rest
  · exact delimited?_append hvalue rest

/-- An attribute with a quoted value, as text. -/
def quotedAttribute (name : List Char) (quote : Char) (value : List Char) : List Char :=
  name ++ '=' :: quote :: (value ++ [quote])

theorem length_quotedAttribute (name : List Char) (quote : Char) (value : List Char) :
    (quotedAttribute name quote value).length = name.length + value.length + 3 := by
  simp only [quotedAttribute, List.length_append, List.length_cons, List.length_nil]
  omega

/-- **A quoted attribute is one match.** -/
theorem attributeMatches_quoted {quote : Char} (hquote : isQuote quote = true)
    {name value : List Char} (hne : name ≠ []) (hname : ∀ c ∈ name, isAttributeChar c = true)
    (hvalue : quote ∉ value) (offset : Nat) (rest : List Char) :
    attributeMatches offset (quotedAttribute name quote value ++ rest) =
      ⟨offset, name, quotedAttribute name quote value, some value⟩ ::
        attributeMatches (offset + (quotedAttribute name quote value).length) rest := by
  have hsplit : quotedAttribute name quote value ++ rest =
      name ++ (('=' :: quote :: (value ++ [quote])) ++ rest) := by
    simp [quotedAttribute]
  have hvalue' := assigned?_quoted hquote hvalue rest
  rw [hsplit, attributeMatches_assigned hne hname (List.takeWhile_cons_of_neg (by decide))
    (by simpa using hvalue')]
  rfl

theorem value?_other {c : Char} (hdouble : c ≠ '"') (hsingle : c ≠ '\'') (hbrace : c ≠ '\x7b')
    (cs : List Char) : value? (c :: cs) = bareValue? (c :: cs) := by
  unfold value?
  split
  · next h => exact absurd (List.cons.inj h).1 hdouble
  · next h => exact absurd (List.cons.inj h).1 hsingle
  · next h => exact absurd (List.cons.inj h).1 hbrace
  · rfl

theorem assigned?_of_equals {cs tail : List Char} (h : cs.dropWhile isBlank = '=' :: tail) :
    assigned? cs = value? (tail.dropWhile isBlank) := by
  rw [assigned?, h]
  rfl

theorem assigned?_of_ne {c : Char} (hc : c ≠ '=') {cs tail : List Char}
    (h : cs.dropWhile isBlank = c :: tail) : assigned? cs = none := by
  rw [assigned?, h]
  split
  · next heq => exact absurd (List.cons.inj heq).1 hc
  · rfl

/-! ### Names -/

/-- A name that starts with no mark of a value binding. -/
def Unmarked (name : List Char) : Prop :=
  ¬ [':'] <+: name ∧ ¬ "v-bind:".toList <+: name

theorem dropValueBinding_eq_self {name : List Char} (h : Unmarked name) :
    dropValueBinding name = name := by
  obtain ⟨hcolon, hbind⟩ := h
  have hrepeated : dropRepeated 'v' "-bind:".toList name = name := by
    cases name with
    | nil => rw [dropRepeated]
    | cons c cs =>
      rw [dropRepeated, if_neg]
      rintro hc
      rw [Bool.and_eq_true, beq_iff_eq, List.isPrefixOf_iff_prefix] at hc
      obtain ⟨rfl, t, rfl⟩ := hc
      exact hbind ⟨t, rfl⟩
  rw [dropValueBinding, hrepeated]
  cases name with
  | nil => rfl
  | cons c cs =>
    refine List.dropWhile_cons_of_neg ?_
    rw [beq_iff_eq]
    rintro rfl
    exact hcolon ⟨cs, rfl⟩

/-! ### Repeated names -/

/-- **Of the attributes with one name the last one is kept**, in its own place. -/
theorem keepLast_eq_pwFilter (attributes : List AttributeOccurrence) :
    keepLast attributes = attributes.pwFilter fun a later => a.name ≠ later.name := by
  -- an attribute kept so far stays if none of those still to come has its name
  suffices hfold : ∀ rest kept : List AttributeOccurrence,
      rest.foldl (fun kept a => kept.filter (·.name != a.name) ++ [a]) kept =
        kept.filter (fun a => rest.all fun later => a.name != later.name) ++
          rest.pwFilter fun a later => a.name ≠ later.name by
    have h := hfold attributes []
    rwa [List.filter_nil, List.nil_append] at h
  intro rest
  induction rest with
  | nil => intro kept; simp
  | cons a rest ih =>
    intro kept
    have hlater : (∀ b ∈ rest.pwFilter fun a later => a.name ≠ later.name, a.name ≠ b.name) ↔
        ∀ b ∈ rest, a.name ≠ b.name := by
      refine List.forall_mem_pwFilter (R := fun a later => a.name ≠ later.name)
        (fun {x y z} hxz => ?_) a rest
      by_cases hxy : x.name = y.name
      · exact Or.inr fun hyz => hxz (hxy.trans hyz)
      · exact Or.inl hxy
    have hkept : (kept.filter (·.name != a.name)).filter
        (fun b => rest.all fun later => b.name != later.name) =
          kept.filter fun b => (a :: rest).all fun later => b.name != later.name := by
      rw [List.filter_filter]
      refine List.filter_congr fun b _ => ?_
      rw [List.all_cons, Bool.and_comm]
    rw [List.foldl_cons, ih, List.filter_append, hkept, List.append_assoc]
    congr 1
    by_cases hname : ∀ b ∈ rest, a.name ≠ b.name
    · rw [List.pwFilter_cons_of_pos (hlater.mpr hname), List.filter_cons_of_pos]
      · rfl
      · simpa using hname
    · rw [List.pwFilter_cons_of_neg fun h => hname (hlater.mp h), List.filter_cons_of_neg]
      · rfl
      · simpa using hname

theorem keepLast_subset (attributes : List AttributeOccurrence) :
    keepLast attributes ⊆ attributes := by
  rw [keepLast_eq_pwFilter]
  exact List.pwFilter_subset attributes

theorem keepLast_eq_self {attributes : List AttributeOccurrence}
    (h : (attributes.map (·.name)).Nodup) : keepLast attributes = attributes := by
  rw [keepLast_eq_pwFilter, List.pwFilter_eq_self]
  exact List.pairwise_map.mp h

end MarkupAssist.Markup
