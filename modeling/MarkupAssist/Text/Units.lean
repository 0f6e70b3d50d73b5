/-!
# Sizes in encoding units

How much room a text takes in the two encodings in which places inside it are counted by others:
bytes of UTF-8 and 16-bit units of UTF-16. Inside the library a place is a number of characters;
the functions here convert a number of characters to units and back:

* `size` adds up the units of a text;
* `fitting` is the largest number of characters whose units do not exceed a budget;
* `covering` is the least number of characters whose units reach a given number.
-/

namespace MarkupAssist.Text

/-- Bytes that a character takes in UTF-8. -/
def utf8Width (c : Char) : Nat :=
  if c.toNat < 0x80 then 1 else if c.toNat < 0x800 then 2 else if c.toNat < 0x10000 then 3 else 4

/-- Units that a character takes in UTF-16. -/
def utf16Width (c : Char) : Nat :=
  if c.toNat < 0x10000 then 1 else 2

/-- Units that a text takes, given the units of each character. -/
def size (width : Char → Nat) (cs : List Char) : Nat :=
  cs.foldr (fun c n => width c + n) 0

/-- The number of characters from the start of `cs` that fit into `budget` units. -/
def fitting (width : Char → Nat) : Nat → List Char → Nat
  | _, [] => 0
  | budget, c :: cs =>
    if width c ≤ budget then fitting width (budget - width c) cs + 1 else 0

/-- The number of characters from the start of `cs` that it takes to reach `target` units, or all
of them if they fall short. -/
def covering (width : Char → Nat) : Nat → List Char → Nat
  | _, [] => 0
  | 0, _ :: _ => 0
  | target + 1, c :: cs => covering width (target + 1 - width c) cs + 1

@[simp] theorem size_nil (width : Char → Nat) : size width [] = 0 := rfl

@[simp] theorem size_cons (width : Char → Nat) (c : Char) (cs : List Char) :
    size width (c :: cs) = width c + size width cs := by
  simp [size]

@[simp] theorem size_append (width : Char → Nat) (cs ds : List Char) :
    size width (cs ++ ds) = size width cs + size width ds := by
  induction cs with
  | nil => simp
  | cons c cs ih => simp [ih, Nat.add_assoc]

end MarkupAssist.Text
