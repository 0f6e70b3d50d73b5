import MarkupAssist.Decimal.Shortest
import MarkupAssist.Json.Basic

/-!
# Numbers as text

The text under which a JSON number is kept. An integer of 64 bits, with or without sign, keeps its
digits. Every other number is read as a binary value and written with the fewest digits that read
back: with a decimal point while its decimal exponent lies between -5 and 15, and in exponent
notation outside.

A literal is read in two steps. First come its leading digits, as many as fit into 64 bits
(`NumberLiteral.significand`); the others only move the decimal point. Then the integer is scaled
by a power of ten (`Binary64.scale`).
-/

namespace MarkupAssist

namespace NumberLiteral

/-- The largest integer of 64 bits without sign. -/
def maxSignificand : Nat := 0xFFFFFFFFFFFFFFFF

/-- Append digits to `n` while the result fits into 64 bits; also the digits left over. -/
def appendDigits (n : Nat) : List Nat → Nat × List Nat
  | [] => (n, [])
  | d :: ds => if 10 * n + d ≤ maxSignificand then appendDigits (10 * n + d) ds else (n, d :: ds)

/-- The leading digits as an integer, and the power of ten by which to scale it, the exponent of
the literal not counted. -/
def significand (n : NumberLiteral) : Nat × Int :=
  let (whole, wholeLeft) := appendDigits 0 n.whole
  let (all, fractionLeft) := appendDigits whole n.fraction
  (all, (wholeLeft.length : Int) - (n.fraction.length - fractionLeft.length : Nat))

/-- The exponent of the literal. -/
def exponentValue (n : NumberLiteral) : Int :=
  match n.exponent with
  | none => 0
  | some (negative, digits) =>
    if negative then -(digitsValue digits : Int) else digitsValue digits

/-- The binary value of the literal without its sign; `none` if it is out of range. -/
def toBinary? (n : NumberLiteral) : Option Decimal.Binary64 :=
  let (digits, shift) := n.significand
  Decimal.Binary64.scale digits (shift + n.exponentValue)

end NumberLiteral

/-- Where positional notation starts and ends, as decimal exponents. -/
structure FloatNotation where
  leastPositional : Int
  greatestPositional : Int

/-- Numbers are written positionally from `0.00001` up to sixteen digits before the point. -/
def FloatNotation.standard : FloatNotation := ⟨-5, 15⟩

/-- The digits of a decimal. -/
def digitString (n : Nat) : String := String.ofList (Nat.toDigits 10 n)

/-- A decimal in positional notation, with at least one digit on each side of the point. -/
def positional (d : Decimal.Numeral) : String :=
  if 0 ≤ d.exponent then digitString (d.digits * Nat.pow 10 d.exponent.toNat) ++ ".0"
  else
    let places := (-d.exponent).toNat
    let digits := Nat.toDigits 10 d.digits
    let padded := List.replicate (places + 1 - digits.length) '0' ++ digits
    String.ofList (padded.take (padded.length - places)) ++ "." ++
      String.ofList (padded.drop (padded.length - places))

/-- A decimal in exponent notation, with the sign of the exponent always written. -/
def scientific (d : Decimal.Numeral) (exponent : Int) : String :=
  let sign := if exponent < 0 then "-" else "+"
  let mark := "e" ++ sign ++ toString exponent.natAbs
  match Nat.toDigits 10 d.digits with
  | [] => mark
  | [c] => c.toString ++ mark
  | c :: cs => c.toString ++ "." ++ String.ofList cs ++ mark

/-- A decimal as text. -/
def FloatNotation.render (format : FloatNotation) (d : Decimal.Numeral) : String :=
  let exponent := d.exponent + ((Nat.toDigits 10 d.digits).length : Int) - 1
  if d.digits = 0 then "0.0"
  else if format.leastPositional ≤ exponent && exponent ≤ format.greatestPositional then
    positional d
  else scientific d exponent

/-- The text of a number literal; `none` if it is out of range. -/
def NumberLiteral.text? (n : NumberLiteral) : Option String :=
  let v := digitsValue n.whole
  if n.isInteger && !n.negative && v ≤ maxSignificand then some (digitString v)
  else if n.isInteger && n.negative && 0 < v && v ≤ 0x8000000000000000 then
    some ("-" ++ digitString v)
  else
    n.toBinary?.map fun x =>
      (if n.negative then "-" else "") ++ FloatNotation.standard.render x.shortest

end MarkupAssist
