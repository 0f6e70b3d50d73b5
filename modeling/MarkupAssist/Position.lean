/-!
# Positions and ranges

A position is a line and a character in it, both counted from zero; a character is a Unicode scalar
value. Positions are ordered by line first. A range is a pair of positions, its end excluded.

`Position.advance` moves a position over one character of text and `Position.advanceOver` over a
whole text: this is how a place in a text becomes a position.
-/

namespace MarkupAssist

/-- A place in a document. Documents are taken to have fewer than 2^32 lines and fewer than 2^32
characters in a line, so that the place of a character is also a pair of words of 32 bits. -/
structure Position where
  line : Nat
  character : Nat
  deriving DecidableEq, Repr, Inhabited

namespace Position

/-- The start of a document. -/
def origin : Position := ⟨0, 0⟩

/-- Positions are compared by line, then by character. -/
def before (p q : Position) : Bool :=
  p.line < q.line || (p.line == q.line && p.character < q.character)

instance : LT Position := ⟨fun p q => p.before q = true⟩

instance : LE Position := ⟨fun p q => q.before p = false⟩

instance (p q : Position) : Decidable (p < q) := inferInstanceAs (Decidable (_ = true))

instance (p q : Position) : Decidable (p ≤ q) := inferInstanceAs (Decidable (_ = false))

theorem lt_iff (p q : Position) :
    p < q ↔ p.line < q.line ∨ (p.line = q.line ∧ p.character < q.character) := by
  show before p q = true ↔ _
  simp [before]

theorem le_iff (p q : Position) :
    p ≤ q ↔ p.line < q.line ∨ (p.line = q.line ∧ p.character ≤ q.character) := by
  show before q p = false ↔ _
  simp only [before, Bool.or_eq_false_iff, decide_eq_false_iff_not, Bool.and_eq_false_iff,
    beq_eq_false_iff_ne, ne_eq]
  omega

/-- The position after one more character of text. -/
def advance (p : Position) (c : Char) : Position :=
  if c = '\n' then ⟨p.line + 1, 0⟩ else ⟨p.line, p.character + 1⟩

/-- The position after the text `cs`. -/
def advanceOver (p : Position) (cs : List Char) : Position :=
  cs.foldl advance p

/-- The position as it is shown to people: counted from one. -/
def display (p : Position) : String :=
  toString (p.line + 1) ++ ":" ++ toString (p.character + 1)

end Position

/-- The text between two positions, the second one excluded. -/
structure Range where
  start : Position
  stop : Position
  deriving DecidableEq, Repr, Inhabited

namespace Range

/-- The range between two characters of one line. -/
def onLine (line start stop : Nat) : Range :=
  ⟨⟨line, start⟩, ⟨line, stop⟩⟩

/-- Whether `inner` lies within `outer`. -/
def contains (outer inner : Range) : Bool :=
  outer.start ≤ inner.start && inner.stop ≤ outer.stop

/-- Whether two ranges have some text in common. -/
def overlaps (a b : Range) : Bool :=
  a.start < b.stop && b.start < a.stop

end Range

end MarkupAssist
