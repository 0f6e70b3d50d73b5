import Mathlib.Data.List.Basic
import MarkupAssist.Config.Client
import MarkupAssist.Proofs.Dictionary

/-!
# What a merge of settings comes to

A section of a payload is merged into the settings in force, written as JSON, and the result is
decoded (`Config.sectionSettings?`). What comes out of this is said here without JSON in between:
`Settings.overlay?` looks a setting up among the members of the section and keeps the one in force
where it finds none.

* `Settings.decode?_object`: in an object in which one member at most stands for each setting, the
  decoder finds what a lookup of the spellings finds, in whatever order they are tried
  (`field?_of_single`).
* A merge leads to such an object, because the merge and the decoder know the same spellings
  (`Settings.mergeKey_eq_indentKey_iff`) and the merge leaves only one of them
  (`Settings.mergeKey_notMem_aliases`).
* `get?_renamed`: of several members that are merged under one key the last one in the order of
  keys counts.
* The settings in force come back as they were written (`word?_ofNat`, `constant?_text`).

`Settings.decode?_merge` puts this together.
-/

namespace MarkupAssist

/-- The first of some spellings of a key that an object has. -/
def Json.firstOf? (value : Json) (spellings : List String) : Option Json :=
  spellings.findSome? value.get?

/-- The indent that a section mentions. Of several spellings the last one in the order of names
counts. -/
def Json.indentMention? (part : Json) : Option Json :=
  (part.get? "indent_size").or ((part.get? "indentSize").or (part.get? "indent-size"))

/-- The quotation mark that a section mentions. -/
def Json.quotesMention? (part : Json) : Option Json :=
  part.get? "quotes"

/-- Settings changed by those that the members of an object mention, all of whose keys are texts. -/
def Settings.overlay? (settings : Settings) (members : List (Option String × Json)) :
    Option Settings :=
  if members.all (·.1.isSome) then do
    return {
      indentSize := ← Json.withDefault? settings.indentSize Json.word?
        (Json.object members).indentMention?
      quotes := ← Json.withDefault? settings.quotes (Json.constant? QuoteStyle.ofName?)
        (Json.object members).quotesMention? }
  else none

/-! ### Values written and read -/

theorem digitsValue_decimalDigits (n : Nat) : digitsValue (decimalDigits n) = n := by
  rw [digitsValue, decimalDigits, List.foldl_map]
  exact Nat.ofDigitChars_ten_toDigits

theorem word?_ofNat (n : UInt64) : (Json.ofNat n.toNat).word? = some n := by
  have hvalue : (Json.ofNat n.toNat).natBelow? UInt64.size = some n.toNat := by
    have hlt : n.toNat < UInt64.size := n.toNat_lt
    simp [Json.ofNat, Json.natBelow?, NumberLiteral.toNatBelow?, NumberLiteral.ofInt,
      NumberLiteral.isInteger, digitsValue_decimalDigits, hlt]
  rw [Json.word?, hvalue, Option.map_some, UInt64.ofNat_toNat]

theorem constant?_text (style : QuoteStyle) :
    (Json.text style.name).constant? QuoteStyle.ofName? = some style := by
  cases style <;> decide

/-! ### One field -/

section Field

variable {members : List (Option String × Json)} {spellings : List String}

theorem get?_singleton (m : Option String × Json) (key : String) :
    (Json.object [m]).get? key = if m.1 = some key then some m.2 else none := by
  by_cases hm : m.1 = some key <;> simp [Json.get?, hm]

/-- A key is found as well among the members that have one of some keys. -/
theorem get?_filter (members : List (Option String × Json)) {keep : Option String → Bool}
    {key : String} (hkey : keep (some key) = true) :
    (Json.object (members.filter fun m => keep m.1)).get? key = (Json.object members).get? key := by
  simp only [Json.get?, ← List.filter_reverse, List.find?_filter]
  congr 2
  funext m
  by_cases hm : m.1 = some key
  · simp [hm, hkey]
  · simp [hm]

theorem firstOf?_single (value : Json) (key : String) : value.firstOf? [key] = value.get? key := by
  rw [Json.firstOf?, List.findSome?_cons, List.findSome?_nil]
  cases value.get? key <;> rfl

/-- Only the members under a spelling of the field count. -/
theorem firstOf?_filter :
    (Json.object (members.filter fun m => m.1.any spellings.contains)).firstOf? spellings =
      (Json.object members).firstOf? spellings := by
  unfold Json.firstOf?
  rw [← List.head?_filterMap, ← List.head?_filterMap]
  refine congrArg _ (List.filterMap_congr fun key hkey => ?_)
  exact get?_filter members (List.contains_iff_mem.mpr hkey)

theorem firstOf?_nil : (Json.object []).firstOf? spellings = none :=
  List.findSome?_eq_none_iff.mpr fun _ _ => rfl

theorem firstOf?_singleton {m : Option String × Json} (hm : m.1.any spellings.contains = true) :
    (Json.object [m]).firstOf? spellings = some m.2 := by
  obtain ⟨key, hkey, hmem⟩ := Option.any_eq_true _ _ |>.mp hm
  rw [List.contains_iff_mem] at hmem
  cases hfirst : (Json.object [m]).firstOf? spellings with
  | none =>
    have hnone := List.findSome?_eq_none_iff.mp hfirst key hmem
    rw [get?_singleton, if_pos hkey] at hnone
    cases hnone
  | some value =>
    obtain ⟨other, -, hother⟩ := List.exists_of_findSome?_eq_some hfirst
    rw [get?_singleton] at hother
    split at hother
    · exact hother.symm
    · cases hother

/-- **The order of the spellings makes no difference** to a field that one member at most can stand
for. -/
theorem field?_of_single {order : List String} (horder : ∀ s, s ∈ spellings ↔ s ∈ order)
    (hsingle : (members.filter fun m => m.1.any spellings.contains).length ≤ 1) :
    Json.field? members spellings = some ((Json.object members).firstOf? order) := by
  have hcontains : spellings.contains = order.contains := by
    funext s
    rw [Bool.eq_iff_iff, List.contains_iff_mem, List.contains_iff_mem]
    exact horder s
  rw [← firstOf?_filter, Json.field?, ← hcontains]
  cases hfound : members.filter fun m => m.1.any spellings.contains with
  | nil => rw [firstOf?_nil]
  | cons m rest =>
    cases rest with
    | nil =>
      have hm : m ∈ members.filter fun m => m.1.any spellings.contains := by simp [hfound]
      rw [firstOf?_singleton (hcontains ▸ (List.mem_filter.mp hm).2)]
    | cons m' rest =>
      rw [hfound, List.length_cons, List.length_cons] at hsingle
      omega

/-- If one spelling at most is used, and no key is repeated, one member at most can stand for the
field. -/
theorem length_filter_le_one (hkeys : (members.map (·.1)).Nodup)
    (hone : ∀ s ∈ spellings, ∀ t ∈ spellings,
      some s ∈ members.map (·.1) → some t ∈ members.map (·.1) → s = t) :
    (members.filter fun m => m.1.any spellings.contains).length ≤ 1 := by
  cases hfound : members.filter fun m => m.1.any spellings.contains with
  | nil => exact Nat.zero_le 1
  | cons m rest =>
    cases rest with
    | nil => exact Nat.le_refl 1
    | cons n rest =>
      -- two members under two spellings
      have hsub : List.Sublist (m :: n :: rest) members := hfound ▸ List.filter_sublist
      have hspelled : ∀ o ∈ m :: n :: rest, ∃ s ∈ spellings, o.1 = some s ∧
          some s ∈ members.map (·.1) := by
        intro o ho
        have hkey : o.1 ∈ members.map (·.1) := List.mem_map_of_mem (hsub.subset ho)
        rw [← hfound] at ho
        obtain ⟨s, hs, hmem⟩ := (Option.any_eq_true _ _).mp (List.mem_filter.mp ho).2
        exact ⟨s, List.contains_iff_mem.mp hmem, hs, hs ▸ hkey⟩
      obtain ⟨s, hs, hms, hsmem⟩ := hspelled m (by simp)
      obtain ⟨t, ht, hnt, htmem⟩ := hspelled n (by simp)
      have hdistinct := (hsub.map (·.1)).nodup hkeys
      rw [List.map_cons, List.map_cons, hms, hnt, hone s hs t ht hsmem htmem] at hdistinct
      simp at hdistinct

end Field

/-! ### Members under one key -/

section Renamed

open Json

variable {members : List (Option String × Json)} {m : Option String × Json}

/-- Behind a member there is no key that does not come after its own. -/
theorem get?_eq_none_of_inOrder (h : InOrder (m :: members)) {key : String}
    (hkey : keyBefore m.1 (some key) = false) : (Json.object members).get? key = none := by
  obtain ⟨hhead, htail⟩ := List.pairwise_cons.mp h
  rw [Option.eq_none_iff_forall_ne_some]
  intro value hvalue
  have hbefore := hhead _ ((get?_eq_some_iff htail).mp hvalue)
  rw [hkey] at hbefore
  cases hbefore

/-- A member in front of others is found if none of them is, when later spellings are tried
first. -/
theorem firstOf?_cons {spellings : List String} (hlast : spellings.Pairwise fun s t => t < s)
    (h : InOrder (m :: members)) :
    (Json.object (m :: members)).firstOf? spellings =
      ((Json.object members).firstOf? spellings).or
        (if m.1.any spellings.contains then some m.2 else none) := by
  induction spellings with
  | nil => cases m.1 <;> rfl
  | cons s spellings ih =>
    obtain ⟨hearlier, hlast⟩ := List.pairwise_cons.mp hlast
    have hsplit (value : Json) :
        value.firstOf? (s :: spellings) = (value.get? s).or (value.firstOf? spellings) := by
      rw [firstOf?, List.findSome?_cons]
      cases value.get? s <;> rfl
    rw [hsplit, hsplit, get?_cons, ih hlast]
    by_cases hm : m.1 = some s
    · -- the keys of the other members come after this spelling
      have hnone : (Json.object members).get? s = none :=
        get?_eq_none_of_inOrder h (by rw [hm, keyBefore_irrefl])
      have hothers : (Json.object members).firstOf? spellings = none := by
        refine List.findSome?_eq_none_iff.mpr fun t ht => get?_eq_none_of_inOrder h ?_
        rw [hm]
        exact decide_eq_false (String.lt_asymm (hearlier t ht))
      simp [hm, hnone, hothers]
    · have hany : m.1.any (s :: spellings).contains = m.1.any spellings.contains := by
        cases hkey : m.1 with
        | none => rfl
        | some key =>
          have hne : key ≠ s := fun heq => hm (heq ▸ hkey)
          simp [hne]
      rw [if_neg hm, Option.or_none, hany, Option.or_assoc]

/-- **Of the members that are put under one key the last one counts.** -/
theorem get?_renamed {rename : String → String} {key : String} {spellings : List String}
    (hspelled : ∀ s, rename s = key ↔ s ∈ spellings)
    (hlast : spellings.Pairwise fun s t => t < s) (h : InOrder members) :
    (Json.object (members.map fun m => (m.1.map rename, m.2))).get? key =
      (Json.object members).firstOf? spellings := by
  -- a lookup takes the last member, and a later member has a later spelling
  induction members with
  | nil => exact firstOf?_nil.symm
  | cons m members ih =>
    have hany : m.1.map rename = some key ↔ m.1.any spellings.contains = true := by
      cases m.1 with
      | none => simp
      | some s => simp [hspelled]
    rw [List.map_cons, get?_cons, ih (List.pairwise_cons.mp h).2, firstOf?_cons hlast h]
    simp only [hany]

end Renamed

/-! ### Settings -/

namespace Settings

variable {members : List (Option String × Json)}

/-- The keys of an object are texts if it has no other key. -/
theorem all_isSome_iff (members : List (Option String × Json)) :
    members.all (·.1.isSome) = true ↔ none ∉ members.map (·.1) := by
  simp only [List.all_eq_true, Option.isSome_iff_ne_none, List.mem_map, not_exists, not_and]

theorem firstOf?_indent (part : Json) :
    part.firstOf? ["indent_size", "indentSize", "indent-size"] = part.indentMention? := by
  simp only [Json.firstOf?, Json.indentMention?, List.findSome?_cons, List.findSome?_nil]
  cases part.get? "indent_size" <;> cases part.get? "indentSize" <;>
    cases part.get? "indent-size" <;> rfl

/-- **Direct decoding is reading on top of the defaults**, if each setting is given once at most. -/
theorem decode?_object (hkeys : (members.map (·.1)).Nodup)
    (hone : ∀ s ∈ indentKey :: indentAliases, ∀ t ∈ indentKey :: indentAliases,
      some s ∈ members.map (·.1) → some t ∈ members.map (·.1) → s = t) :
    decode? (.object members) = overlay? {} members := by
  have hindent : Json.field? members (indentKey :: indentAliases) =
      some (Json.object members).indentMention? := by
    rw [← firstOf?_indent]
    refine field?_of_single ?_ (length_filter_le_one hkeys hone)
    simp [indentKey, indentAliases, or_comm, or_left_comm]
  have hquotes : Json.field? members [quotesKey] = some (Json.object members).quotesMention? := by
    rw [field?_of_single (fun _ => Iff.rfl) (length_filter_le_one hkeys (by simp)),
      firstOf?_single]
    rfl
  have hfields : (Json.object members).fields? [indentKey :: indentAliases, [quotesKey]] =
      if members.all (·.1.isSome) then
        some [(Json.object members).indentMention?, (Json.object members).quotesMention?]
      else none := by
    rw [Json.fields?, List.mapM_cons, hindent, List.mapM_cons, hquotes, List.mapM_nil]
    rfl
  rw [decode?, hfields, overlay?]
  cases members.all (·.1.isSome) <;> rfl

/-- The merge and the decoder know the same spellings of the indent. -/
theorem mergeKey_eq_indentKey_iff (key : String) :
    mergeKey key = indentKey ↔ key ∈ indentKey :: indentAliases := by
  unfold mergeKey
  split <;> simp_all [indentKey, indentAliases]

/-- The other spellings are gone after a merge. -/
theorem mergeKey_notMem_aliases (key : String) : mergeKey key ∉ indentAliases := by
  unfold mergeKey
  split <;> simp_all [indentAliases]

theorem mergeKey_eq_quotesKey_iff (key : String) :
    mergeKey key = quotesKey ↔ key ∈ [quotesKey] := by
  unfold mergeKey
  split <;> simp_all [quotesKey]

/-- The settings in force, as the members of an object. -/
def written (settings : Settings) : List (Option String × Json) :=
  [(some indentKey, .ofNat settings.indentSize.toNat),
   (some quotesKey, .text settings.quotes.name)]

theorem inOrder_written (settings : Settings) : Json.InOrder settings.written := by
  have hkeys : Json.keyBefore (some indentKey) (some quotesKey) = true := by decide
  simpa [Json.InOrder, written] using hkeys

/-- The members of a section on top of the settings in force. -/
def mergedMembers (settings : Settings) (members : List (Option String × Json)) :
    List (Option String × Json) :=
  Json.insertAll settings.written (members.map fun m => (m.1.map mergeKey, m.2))

theorem merge_object (settings : Settings) (members : List (Option String × Json)) :
    settings.merge (.object members) = .object (settings.mergedMembers members) := rfl

theorem mem_keys_mergedMembers (settings : Settings) (members : List (Option String × Json))
    (key : Option String) :
    key ∈ (settings.mergedMembers members).map (·.1) ↔
      key ∈ [some indentKey, some quotesKey] ∨ ∃ m ∈ members, m.1.map mergeKey = key := by
  rw [mergedMembers, Json.mem_keys_insertAll settings.inOrder_written, List.map_map]
  exact or_congr Iff.rfl List.mem_map

/-- **No spelling but the key itself is left by a merge.** -/
theorem alias_notMem_mergedMembers (settings : Settings) (members : List (Option String × Json))
    {key : String} (hkey : key ∈ indentAliases) :
    some key ∉ (settings.mergedMembers members).map (·.1) := by
  rw [mem_keys_mergedMembers]
  rintro (hown | ⟨m, -, hm⟩)
  · revert key
    decide
  · obtain ⟨s, -, rfl⟩ := Option.map_eq_some_iff.mp hm
    exact mergeKey_notMem_aliases s hkey

theorem all_isSome_mergedMembers (settings : Settings) (members : List (Option String × Json)) :
    (settings.mergedMembers members).all (·.1.isSome) = members.all (·.1.isSome) := by
  rw [Bool.eq_iff_iff, all_isSome_iff, all_isSome_iff, mem_keys_mergedMembers]
  simp

theorem get?_mergedMembers (settings : Settings) {key : String} {spellings : List String}
    (hspelled : ∀ s, mergeKey s = key ↔ s ∈ spellings)
    (hlast : spellings.Pairwise fun s t => t < s) (h : Json.InOrder members) :
    (Json.object (settings.mergedMembers members)).get? key =
      ((Json.object members).firstOf? spellings).or ((Json.object settings.written).get? key) := by
  rw [mergedMembers, Json.get?_insertAll settings.inOrder_written,
    get?_renamed hspelled hlast h]

theorem indentMention?_mergedMembers (settings : Settings) (h : Json.InOrder members) :
    (Json.object (settings.mergedMembers members)).indentMention? =
      ((Json.object members).indentMention?).or (some (.ofNat settings.indentSize.toNat)) := by
  have halias {key : String} (hkey : key ∈ indentAliases) :
      (Json.object (settings.mergedMembers members)).get? key = none := by
    rw [← Option.not_isSome_iff_eq_none, Json.isSome_get?_iff]
    exact settings.alias_notMem_mergedMembers members hkey
  have hkey : (Json.object (settings.mergedMembers members)).get? "indent-size" =
      ((Json.object members).indentMention?).or (some (.ofNat settings.indentSize.toNat)) := by
    rw [← firstOf?_indent]
    refine settings.get?_mergedMembers (fun s => ?_) (by decide) h
    rw [← indentKey, mergeKey_eq_indentKey_iff]
    simp [indentKey, indentAliases, or_comm, or_left_comm]
  rw [Json.indentMention?, halias (by decide), halias (by decide), hkey]
  rfl

theorem quotesMention?_mergedMembers (settings : Settings) (h : Json.InOrder members) :
    (Json.object (settings.mergedMembers members)).quotesMention? =
      ((Json.object members).quotesMention?).or (some (.text settings.quotes.name)) := by
  have hkey := settings.get?_mergedMembers mergeKey_eq_quotesKey_iff (List.pairwise_singleton _ _) h
  rw [firstOf?_single] at hkey
  exact hkey

theorem withDefault?_or {α : Type} {decode : Json → Option α} {value : Json} {a : α}
    (hvalue : decode value = some a) (default : α) (mention : Option Json) :
    Json.withDefault? default decode (mention.or (some value)) =
      Json.withDefault? a decode mention := by
  cases mention with
  | none => exact hvalue
  | some other => rfl

/-- **Decoding a merge is reading on top of the settings in force.** -/
theorem decode?_merge (settings : Settings) (h : Json.InOrder members) :
    decode? (settings.merge (.object members)) = settings.overlay? members := by
  -- the decoder refuses two spellings of a field, so it matters that the merge leaves one
  have hone : ∀ s ∈ indentKey :: indentAliases,
      some s ∈ (settings.mergedMembers members).map (·.1) → s = indentKey := by
    intro s hs hmem
    obtain rfl | hs := List.mem_cons.mp hs
    · rfl
    · exact absurd hmem (settings.alias_notMem_mergedMembers members hs)
  have hkeys : ((settings.mergedMembers members).map (·.1)).Nodup :=
    (Json.inOrder_insertAll settings.inOrder_written _).nodup_keys
  rw [merge_object, decode?_object hkeys
    (fun s hs t ht hsmem htmem => (hone s hs hsmem).trans (hone t ht htmem).symm)]
  -- the defaults never show, since the settings in force are below everything
  rw [overlay?, all_isSome_mergedMembers, settings.indentMention?_mergedMembers h,
    settings.quotesMention?_mergedMembers h, withDefault?_or (word?_ofNat _),
    withDefault?_or (constant?_text _), overlay?]

end Settings

end MarkupAssist
