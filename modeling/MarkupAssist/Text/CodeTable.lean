/-!
# Tables of code points

A property of characters that a standard gives by enumeration is kept here as a list of
intervals of code points. The property modules beside this one hold one table each; what
they share is the membership test `CodeTable.contains` and its characterisation
`CodeTable.contains_iff`.
-/

namespace MarkupAssist.Text

/-- A set of code points, written as closed intervals in increasing order. -/
abbrev CodeTable := List (Nat × Nat)

namespace CodeTable

/-- Whether the code point of `c` lies in one of the intervals. -/
def contains (table : CodeTable) (c : Char) : Bool :=
  table.any fun (first, last) => first ≤ c.toNat && c.toNat ≤ last

theorem contains_iff (table : CodeTable) (c : Char) :
    table.contains c = true ↔ ∃ r ∈ table, r.1 ≤ c.toNat ∧ c.toNat ≤ r.2 := by
  simp [contains]

end CodeTable

end MarkupAssist.Text
