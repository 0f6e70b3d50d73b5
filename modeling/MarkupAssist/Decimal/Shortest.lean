import MarkupAssist.Decimal.Binary64

/-!
# The shortest decimal of a binary value

Among the decimals that round back to a given binary value, `Binary64.shortest` picks one with the
fewest digits, and the nearest of those. `Binary64.readsBack` is the test: the decimal lies between
the midpoints to the two neighbouring values, the midpoints included if the significand is even.
All comparisons are of exact integers.
-/

namespace MarkupAssist.Decimal

/-- The decimal `digits * 10^exponent`. -/
structure Numeral where
  digits : Nat
  exponent : Int
  deriving DecidableEq, Repr, Inhabited

/-- Compare `a * 10^i` with `n * 2^j`. -/
def compareScaled (a : Nat) (i : Int) (n : Nat) (j : Int) : Ordering :=
  compare (a * Nat.pow 10 i.toNat * Nat.pow 2 (-j).toNat)
    (n * Nat.pow 2 j.toNat * Nat.pow 10 (-i).toNat)

/-- Remove zeros at the end of the digits; `fuel` bounds their number. -/
def Numeral.strip : Nat → Numeral → Numeral
  | 0, d => d
  | fuel + 1, d =>
    if d.digits ≠ 0 ∧ d.digits % 10 = 0 then strip fuel ⟨d.digits / 10, d.exponent + 1⟩ else d

namespace Binary64

/-- Whether the gap to the value below is half the gap to the value above. -/
def narrowBelow (x : Binary64) : Bool :=
  x.m == Nat.pow 2 52 && -1074 < x.q

/-- Whether a decimal rounds to `x`. -/
def readsBack (x : Binary64) (d : Numeral) : Bool :=
  let low := if x.narrowBelow then 4 * x.m - 1 else 4 * x.m - 2
  let belowLow := compareScaled d.digits d.exponent low (x.q - 2)
  let aboveHigh := compareScaled d.digits d.exponent (4 * x.m + 2) (x.q - 2)
  let closed := x.m % 2 == 0
  (belowLow == .gt || (closed && belowLow == .eq)) &&
    (aboveHigh == .lt || (closed && aboveHigh == .eq))

/-- The integer part of `x / 10^k`. -/
def floorOn (x : Binary64) (k : Int) : Nat :=
  (x.m * Nat.pow 2 x.q.toNat * Nat.pow 10 (-k).toNat) /
    (Nat.pow 2 (-x.q).toNat * Nat.pow 10 k.toNat)

/-- The least `k` from `start` on, within `fuel` steps, with `x < 10^k`. -/
def scaleFrom (x : Binary64) : Nat → Int → Int
  | 0, k => k
  | fuel + 1, k => if x.floorOn k = 0 then k else scaleFrom x fuel (k + 1)

/-- The least `k` with `x < 10^k`, for `x` that is not zero. -/
def decimalScale (x : Binary64) : Int :=
  x.scaleFrom 640 (-324)

/-- The decimal with steps of `10^k` that reads back and is nearest to `x`, if there is one. -/
def onGrid (x : Binary64) (k : Int) : Option Numeral :=
  let low : Numeral := ⟨x.floorOn k, k⟩
  let high : Numeral := ⟨x.floorOn k + 1, k⟩
  match x.readsBack low, x.readsBack high with
  | true, false => some low
  | false, true => some high
  | false, false => none
  | true, true =>
    match compareScaled (low.digits + high.digits) k x.m (x.q + 1) with
    | .gt => some low
    | .lt => some high
    | .eq => some (if low.digits % 2 = 0 then low else high)

/-- The shortest decimal that reads back; seventeen digits always suffice. -/
def shortest (x : Binary64) : Numeral :=
  if x.m = 0 then ⟨0, 0⟩
  else
    let k := x.decimalScale
    let found := (List.range 17).findSome? fun (n : Nat) => x.onGrid (k - n - 1)
    match found with
    | some d => d.strip 17
    | none => ⟨x.m * Nat.pow 2 x.q.toNat * Nat.pow 5 (-x.q).toNat, min x.q 0⟩

end Binary64

end MarkupAssist.Decimal
