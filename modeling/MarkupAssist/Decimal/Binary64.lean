/-!
# Finite binary floating-point values

Non-negative values of the 64-bit binary format as pairs `m * 2^q` of exact integers, and the
operations on them that are needed to read a decimal: each result is the exact one rounded to the
nearest value, ties to the even significand (`Binary64.roundQuotient`). A result past the largest
finite value is `none`.
-/

namespace MarkupAssist.Decimal

/-- The value `m * 2^q`. In the values built here `m < 2^53`, `-1074 ≤ q ≤ 971`, and `2^52 ≤ m`
unless `q = -1074`. -/
structure Binary64 where
  m : Nat
  q : Int
  deriving DecidableEq, Repr, Inhabited

namespace Binary64

/-- Zero. -/
def zero : Binary64 := ⟨0, -1074⟩

/-- Divide, rounding to the nearest integer and a half to the even one. -/
def divNearest (num den : Nat) : Nat :=
  let d := num / den
  let r := num % den
  if den < 2 * r || (2 * r == den && d % 2 == 1) then d + 1 else d

/-- The value nearest to `num / den`. -/
def roundQuotient (num den : Nat) : Option Binary64 :=
  if num = 0 then some zero
  else
    let scaled (q : Int) : Nat × Nat := (num * Nat.pow 2 (-q).toNat, den * Nat.pow 2 q.toNat)
    let low : Int := max ((num.log2 : Int) - den.log2 - 53) (-1074)
    let q := if (scaled low).1 / (scaled low).2 < Nat.pow 2 53 then low else low + 1
    let m := divNearest (scaled q).1 (scaled q).2
    let (m, q) := if m = Nat.pow 2 53 then (Nat.pow 2 52, q + 1) else (m, q)
    if 971 < q then none else some ⟨m, q⟩

/-- The value nearest to an integer. -/
def ofNat (n : Nat) : Option Binary64 := roundQuotient n 1

/-- The value nearest to a product. -/
def mul (a b : Binary64) : Option Binary64 :=
  let q := a.q + b.q
  roundQuotient (a.m * b.m * Nat.pow 2 q.toNat) (Nat.pow 2 (-q).toNat)

/-- The value nearest to a quotient. -/
def div (a b : Binary64) : Option Binary64 :=
  let q := a.q - b.q
  roundQuotient (a.m * Nat.pow 2 q.toNat) (b.m * Nat.pow 2 (-q).toNat)

/-- The largest exponent for which a power of ten is finite. -/
def maxPower : Nat := 308

/-- The value nearest to a power of ten. -/
def powerOfTen (k : Nat) : Option Binary64 := ofNat (Nat.pow 10 k)

/-- Divide by `10^k`, in steps of the largest finite power of ten. -/
def scaleDown (a : Binary64) (k : Nat) : Option Binary64 :=
  if k ≤ maxPower then do a.div (← powerOfTen k)
  else if a.m = 0 then some a
  else do scaleDown (← a.div (← powerOfTen maxPower)) (k - maxPower)
termination_by k
decreasing_by simp only [maxPower] at *; omega

/-- The value of the integer `significand`, scaled by a power of ten; each of the two steps rounds.
`none` if it is out of range. -/
def scale (significand : Nat) (exponent : Int) : Option Binary64 := do
  let a ← ofNat significand
  if exponent < 0 then a.scaleDown (-exponent).toNat
  else if exponent ≤ maxPower then a.mul (← powerOfTen exponent.toNat)
  else if a.m = 0 then some a
  else none

end Binary64

end MarkupAssist.Decimal
