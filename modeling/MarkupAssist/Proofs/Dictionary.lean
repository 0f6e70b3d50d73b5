import MarkupAssist.Json.Collapsed

/-!
# Dictionaries

Insertion gives a key one value and keeps the others. Its laws are stated for members that are in
the order of their keys (`Json.InOrder`), which an insertion preserves (`inOrder_insertMember`).

* `get?_insertAll`: after many insertions a key has the last value that was given to it.
* `Json.dictionary`: the members of an object in its collapsed form. They are in order, their keys
  are those of the object (`mem_keys_dictionary`), and a lookup finds in them what it finds among
  the members as they were written (`get?_dictionary`).
-/

namespace MarkupAssist.Json

/-- Members in the order of their keys, of which none is repeated. -/
def InOrder (members : List (Option String × Json)) : Prop :=
  members.Pairwise fun m n => keyBefore m.1 n.1 = true

/-! ### The order of keys -/

theorem keyBefore_trans {a b c : Option String} (hab : keyBefore a b = true)
    (hbc : keyBefore b c = true) : keyBefore a c = true := by
  cases a <;> cases b <;> cases c <;> simp_all only [keyBefore, decide_eq_true_eq,
    Bool.false_eq_true]
  exact String.lt_trans hab hbc

theorem keyBefore_irrefl (a : Option String) : keyBefore a a = false := by
  cases a with
  | none => rfl
  | some a => exact decide_eq_false (String.lt_irrefl a)

theorem keyBefore_of_not {a b : Option String} (hne : b ≠ a) (h : ¬ keyBefore a b = true) :
    keyBefore b a = true := by
  cases a with
  | none =>
    cases b with
    | none => exact absurd rfl hne
    | some b => exact absurd rfl h
  | some a =>
    cases b with
    | none => rfl
    | some b =>
      rw [keyBefore, decide_eq_true_eq] at h ⊢
      refine Decidable.byContradiction fun hba => hne (congrArg some ?_)
      exact String.le_antisymm (String.not_lt.mp h) (String.not_lt.mp hba)

/-! ### Insertion -/

section Insertion

variable {key : Option String} {value : Json} {members : List (Option String × Json)}

theorem InOrder.ne_of_mem {m n : Option String × Json} (h : InOrder (m :: members))
    (hn : n ∈ members) : n.1 ≠ m.1 := by
  intro heq
  have hbefore := (List.pairwise_cons.mp h).1 n hn
  rw [heq, keyBefore_irrefl] at hbefore
  cases hbefore

theorem InOrder.nodup_keys (h : InOrder members) : (members.map (·.1)).Nodup := by
  induction members with
  | nil => exact .nil
  | cons m members ih =>
    rw [List.map_cons, List.nodup_cons]
    refine ⟨fun hmem => ?_, ih (List.pairwise_cons.mp h).2⟩
    obtain ⟨n, hn, heq⟩ := List.mem_map.mp hmem
    exact h.ne_of_mem hn heq

/-- Members with one key are one member. -/
theorem InOrder.eq_singleton (h : InOrder members) (honly : ∀ k ∈ members.map (·.1), k = key)
    (hmem : (key, value) ∈ members) : members = [(key, value)] := by
  cases members with
  | nil => cases hmem
  | cons m members =>
    cases members with
    | nil => rw [List.mem_singleton.mp hmem]
    | cons n members =>
      have hne : n.1 ≠ m.1 := h.ne_of_mem List.mem_cons_self
      exact absurd ((honly n.1 (by simp)).trans (honly m.1 (by simp)).symm) hne

/-- What is in a dictionary after an insertion. -/
theorem mem_insertMember (h : InOrder members) {m : Option String × Json} :
    m ∈ insertMember key value members ↔ m = (key, value) ∨ m ∈ members ∧ m.1 ≠ key := by
  induction members with
  | nil => simp [insertMember]
  | cons n members ih =>
    have hne : m ∈ members → m.1 ≠ n.1 := h.ne_of_mem
    rw [insertMember]
    split
    · next heq =>
      subst heq
      rw [List.mem_cons, List.mem_cons]
      grind
    · next hother =>
      split
      · next hbefore =>
        -- the key is in front of all the others, so none of them is replaced
        have hnew : ∀ o ∈ members, o.1 ≠ key := by
          intro o ho heq
          have hno := (List.pairwise_cons.mp h).1 o ho
          rw [heq] at hno
          have hself := keyBefore_trans hbefore hno
          rw [keyBefore_irrefl] at hself
          cases hself
        simp only [List.mem_cons]
        grind
      · rw [List.mem_cons, ih (List.pairwise_cons.mp h).2, List.mem_cons]
        grind

theorem inOrder_insertMember (h : InOrder members) : InOrder (insertMember key value members) := by
  induction members with
  | nil => exact List.pairwise_singleton _ _
  | cons n members ih =>
    obtain ⟨hhead, htail⟩ := List.pairwise_cons.mp h
    rw [insertMember]
    split
    · next heq =>
      subst heq
      exact List.pairwise_cons.mpr ⟨hhead, htail⟩
    · next hother =>
      split
      · next hbefore =>
        refine List.pairwise_cons.mpr ⟨?_, h⟩
        rintro o (_ | ⟨_, ho⟩)
        · exact hbefore
        · exact keyBefore_trans hbefore (hhead o ho)
      · next hnot =>
        refine List.pairwise_cons.mpr ⟨fun o ho => ?_, ih htail⟩
        obtain rfl | ⟨ho, -⟩ := (mem_insertMember htail).mp ho
        · exact keyBefore_of_not hother hnot
        · exact hhead o ho

theorem insertAll_cons (base : List (Option String × Json)) (m : Option String × Json)
    (members : List (Option String × Json)) :
    insertAll base (m :: members) = insertAll (insertMember m.1 m.2 base) members := rfl

theorem inOrder_insertAll {base : List (Option String × Json)} (h : InOrder base)
    (members : List (Option String × Json)) : InOrder (insertAll base members) := by
  induction members generalizing base with
  | nil => exact h
  | cons m members ih => exact ih (inOrder_insertMember h)

/-- The keys after an insertion. -/
theorem mem_keys_insertMember (h : InOrder members) (k : Option String) :
    k ∈ (insertMember key value members).map (·.1) ↔ k = key ∨ k ∈ members.map (·.1) := by
  simp only [List.mem_map, mem_insertMember h]
  constructor
  · rintro ⟨m, rfl | ⟨hm, -⟩, rfl⟩
    · exact .inl rfl
    · exact .inr ⟨m, hm, rfl⟩
  · rintro (rfl | ⟨m, hm, rfl⟩)
    · exact ⟨_, .inl rfl, rfl⟩
    · by_cases hkey : m.1 = key
      · exact ⟨(key, value), .inl rfl, hkey.symm⟩
      · exact ⟨m, .inr ⟨hm, hkey⟩, rfl⟩

/-- The keys of a dictionary are those that were given values. -/
theorem mem_keys_insertAll {base : List (Option String × Json)} (h : InOrder base)
    (members : List (Option String × Json)) (k : Option String) :
    k ∈ (insertAll base members).map (·.1) ↔ k ∈ base.map (·.1) ∨ k ∈ members.map (·.1) := by
  induction members generalizing base with
  | nil => simp [insertAll]
  | cons m members ih =>
    rw [insertAll_cons, ih (inOrder_insertMember h), mem_keys_insertMember h, List.map_cons,
      List.mem_cons, or_assoc, or_left_comm]

end Insertion

/-! ### Lookup -/

theorem get?_cons (m : Option String × Json) (members : List (Option String × Json))
    (key : String) :
    (object (m :: members)).get? key =
      ((object members).get? key).or (if m.1 = some key then some m.2 else none) := by
  simp only [get?, List.reverse_cons, List.find?_append, List.find?_singleton]
  cases members.reverse.find? fun m => m.1 == some key with
  | some n => rfl
  | none => by_cases hm : m.1 = some key <;> simp [hm]

theorem get?_eq_some_iff {members : List (Option String × Json)} (h : InOrder members)
    {key : String} {value : Json} :
    (object members).get? key = some value ↔ (some key, value) ∈ members := by
  induction members generalizing value with
  | nil => simp [get?]
  | cons m members ih =>
    obtain ⟨name, first⟩ := m
    have hne : ∀ other, (some key, other) ∈ members → some key ≠ name := fun _ => h.ne_of_mem
    replace ih := fun value => @ih (List.pairwise_cons.mp h).2 value
    rw [get?_cons, Option.or_eq_some_iff, ih, List.mem_cons, Prod.mk.injEq]
    constructor
    · rintro (hmem | ⟨-, hfirst⟩)
      · exact .inr hmem
      · split at hfirst
        · next heq => exact .inl ⟨heq.symm, (Option.some.inj hfirst).symm⟩
        · cases hfirst
    · rintro (⟨rfl, rfl⟩ | hmem)
      · refine .inr ⟨Option.eq_none_iff_forall_ne_some.mpr fun other hother => ?_, if_pos rfl⟩
        exact hne other ((ih other).mp hother) rfl
      · exact .inl hmem

theorem get?_insertMember {members : List (Option String × Json)} (h : InOrder members)
    (name : Option String) (value : Json) (key : String) :
    (object (insertMember name value members)).get? key =
      if name = some key then some value else (object members).get? key := by
  ext found
  rw [get?_eq_some_iff (inOrder_insertMember h), mem_insertMember h, ← get?_eq_some_iff h]
  by_cases hname : name = some key
  · simp [hname, eq_comm]
  · simp [hname, Ne.symm hname]

/-- **The last value of a key counts**, and what stands below only if there is none. -/
theorem get?_insertAll {base : List (Option String × Json)} (h : InOrder base)
    (members : List (Option String × Json)) (key : String) :
    (object (insertAll base members)).get? key =
      ((object members).get? key).or ((object base).get? key) := by
  induction members generalizing base with
  | nil => rfl
  | cons m members ih =>
    rw [insertAll_cons, ih (inOrder_insertMember h), get?_insertMember h, get?_cons,
      Option.or_assoc]
    by_cases hm : m.1 = some key <;> simp [hm]

theorem get?_map (f : Json → Json) (members : List (Option String × Json)) (key : String) :
    (object (members.map fun m => (m.1, f m.2))).get? key = ((object members).get? key).map f := by
  induction members with
  | nil => rfl
  | cons m members ih =>
    rw [List.map_cons, get?_cons, get?_cons, ih]
    by_cases hm : m.1 = some key <;> cases (object members).get? key <;> simp [hm]

theorem isSome_get?_iff (members : List (Option String × Json)) (key : String) :
    ((object members).get? key).isSome = true ↔ some key ∈ members.map (·.1) := by
  simp [get?, List.find?_isSome]

/-! ### Dictionaries -/

theorem collapsedMembers_eq (members : List (Option String × Json)) :
    collapsedMembers members = members.map fun m => (m.1, m.2.collapsed) := by
  induction members with
  | nil => rw [collapsedMembers, List.map_nil]
  | cons m members ih => rw [collapsedMembers, ih, List.map_cons]

/-- The members of the dictionary that an object is. -/
def dictionary (members : List (Option String × Json)) : List (Option String × Json) :=
  insertAll [] (members.map fun m => (m.1, m.2.collapsed))

theorem collapsed_object (members : List (Option String × Json)) :
    (object members).collapsed = object (dictionary members) := by
  rw [collapsed, collapsedMembers_eq, dictionary]

theorem inOrder_dictionary (members : List (Option String × Json)) :
    InOrder (dictionary members) :=
  inOrder_insertAll .nil _

/-- A key has in the dictionary the last value that was written for it. -/
theorem get?_dictionary (members : List (Option String × Json)) (key : String) :
    (object (dictionary members)).get? key = ((object members).get? key).map collapsed := by
  rw [dictionary, get?_insertAll .nil, get?_map]
  exact Option.or_none

theorem get?_collapsed (value : Json) (key : String) :
    value.collapsed.get? key = (value.get? key).map collapsed := by
  cases value with
  | object members => rw [collapsed_object, get?_dictionary]
  | _ => rfl

theorem collapsed_eq_null_iff {value : Json} : value.collapsed = .null ↔ value = .null := by
  cases value <;> simp [collapsed]

theorem mem_keys_dictionary (members : List (Option String × Json)) (key : Option String) :
    key ∈ (dictionary members).map (·.1) ↔ key ∈ members.map (·.1) := by
  rw [dictionary, mem_keys_insertAll .nil, List.map_map]
  exact or_iff_right List.not_mem_nil

end MarkupAssist.Json
