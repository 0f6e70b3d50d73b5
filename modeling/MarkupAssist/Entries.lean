/-!
# Entries in declaration order

Named things whose order of declaration matters are kept as a list of entries. `Entries.put` gives
an existing name its new value in its old place and appends a new name; building a list by `put`
therefore leaves no name twice (`Entries.nodup_names_ofList`).
-/

namespace MarkupAssist

/-- Named values in order of declaration. -/
abbrev Entries (α : Type) := List (String × α)

namespace Entries

variable {α β : Type}

/-- The names, in order. -/
def names (entries : Entries α) : List String :=
  entries.map (·.1)

/-- The value of a name. -/
def get? (entries : Entries α) (name : String) : Option α :=
  (entries.find? fun e => e.1 == name).map (·.2)

/-- Whether a name is declared. -/
def has (entries : Entries α) (name : String) : Bool :=
  entries.any fun e => e.1 == name

/-- Give a name a value: in its place if it is declared, at the end if it is new. -/
def put (entries : Entries α) (name : String) (value : α) : Entries α :=
  match entries with
  | [] => [(name, value)]
  | e :: rest => if e.1 == name then (name, value) :: rest else e :: put rest name value

/-- Entries from a list in which a name may be repeated: the first place and the last value
count. -/
def ofList (list : List (String × α)) : Entries α :=
  list.foldl (fun entries e => entries.put e.1 e.2) []

theorem names_put (entries : Entries α) (name : String) (value : α) :
    (entries.put name value).names =
      if name ∈ entries.names then entries.names else entries.names ++ [name] := by
  induction entries with
  | nil => simp [put, names]
  | cons e rest ih =>
    simp only [put]
    by_cases h : e.1 = name
    · simp [h, names]
    · have h' : name ≠ e.1 := fun hh => h hh.symm
      simp only [beq_iff_eq, h, ↓reduceIte, names, List.map_cons, List.mem_cons, h', false_or]
      simp only [names] at ih
      rw [ih]
      split <;> simp_all

theorem nodup_names_put {entries : Entries α} (h : entries.names.Nodup) (name : String)
    (value : α) : (entries.put name value).names.Nodup := by
  rw [names_put]
  split
  · exact h
  · next hn =>
    rw [List.nodup_append]
    refine ⟨h, by simp, ?_⟩
    intro a ha b hb
    simp only [List.mem_singleton] at hb
    subst hb
    exact fun hab => hn (hab ▸ ha)

/-- No name is declared twice. -/
theorem nodup_names_ofList (list : List (String × α)) : (ofList list).names.Nodup := by
  suffices h : ∀ entries : Entries α, entries.names.Nodup →
      (list.foldl (fun entries e => Entries.put entries e.1 e.2) entries).names.Nodup from
    h [] (by simp [names])
  intro entries
  induction list generalizing entries with
  | nil => exact id
  | cons e rest ih => exact fun h => ih _ (nodup_names_put h e.1 e.2)

end Entries

end MarkupAssist
