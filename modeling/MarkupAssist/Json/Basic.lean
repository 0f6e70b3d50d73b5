/-!
# JSON values

A JSON value as it was written: numbers keep their digits, objects keep their members in order with
repeated keys, and strings that denote no text are kept apart. What a value means is decided when
it is decoded (`Json.Decode`), because that is where a repeated key, a number out of range or half
of a surrogate pair is an error, and only in the parts of a value that are looked at.
-/

namespace MarkupAssist

/-- A number literal by its digits. A literal without a decimal point has an empty fraction. -/
structure NumberLiteral where
  negative : Bool
  whole : List Nat
  fraction : List Nat
  exponent : Option (Bool × List Nat)
  deriving DecidableEq, Repr, Inhabited

/-- A JSON value. A string is `none` if one of its escapes is half of a surrogate pair, which no
text can hold; the same goes for keys. -/
inductive Json where
  | null
  | bool (value : Bool)
  | number (literal : NumberLiteral)
  | string (text : Option String)
  | array (items : List Json)
  | object (members : List (Option String × Json))
  deriving Repr, Inhabited

/-- The number that a list of decimal digits denotes. -/
def digitsValue (digits : List Nat) : Nat :=
  digits.foldl (fun n d => 10 * n + d) 0

/-- The decimal digits of a number. -/
def decimalDigits (n : Nat) : List Nat :=
  (Nat.toDigits 10 n).map fun c => c.toNat - '0'.toNat

namespace NumberLiteral

/-- The literal of an integer. -/
def ofInt (n : Int) : NumberLiteral :=
  ⟨n < 0, decimalDigits n.natAbs, [], none⟩

/-- Whether the literal has neither a fraction nor an exponent. -/
def isInteger (n : NumberLiteral) : Bool :=
  n.fraction.isEmpty && n.exponent.isNone

/-- The value of a literal that is a natural number below `bound`. A minus sign is refused even in
front of zero. -/
def toNatBelow? (bound : Nat) (n : NumberLiteral) : Option Nat :=
  if n.isInteger && !n.negative && digitsValue n.whole < bound then some (digitsValue n.whole)
  else none

/-- The value of a literal that is an integer of `bits` bits with sign. -/
def toSigned? (bits : Nat) (n : NumberLiteral) : Option Int :=
  let v := digitsValue n.whole
  if !n.isInteger then none
  else if n.negative then (if 0 < v && v ≤ Nat.pow 2 (bits - 1) then some (-(v : Int)) else none)
  else if v < Nat.pow 2 (bits - 1) then some v else none

/-- The literal as text. -/
def render (n : NumberLiteral) : String :=
  let digits (ds : List Nat) := String.join (ds.map toString)
  (if n.negative then "-" else "") ++ digits n.whole ++
    (if n.fraction.isEmpty then "" else "." ++ digits n.fraction) ++
    match n.exponent with
    | none => ""
    | some (negative, ds) => (if negative then "e-" else "e") ++ digits ds

end NumberLiteral

namespace Json

/-- A string value. -/
def text (s : String) : Json := string (some s)

/-- A natural number. -/
def ofNat (n : Nat) : Json := number (NumberLiteral.ofInt n)

/-- An integer. -/
def ofInt (n : Int) : Json := number (NumberLiteral.ofInt n)

/-- An object whose keys are texts. -/
def record (members : List (String × Json)) : Json :=
  object (members.map fun (key, value) => (some key, value))

/-- An object with the members that are present. -/
def recordOf (members : List (String × Option Json)) : Json :=
  record (members.filterMap fun (key, value) => value.map fun v => (key, v))

/-- A value, or null where there is none. -/
def orNull {α : Type} (encode : α → Json) : Option α → Json
  | some a => encode a
  | none => null

/-- An array of encoded values. -/
def listOf {α : Type} (encode : α → Json) (items : List α) : Json :=
  array (items.map encode)

/-- The member of an object with a given key; the last one if the key is repeated. -/
def get? (value : Json) (key : String) : Option Json :=
  match value with
  | object members => (members.reverse.find? fun m => m.1 == some key).map (·.2)
  | _ => none

end Json

end MarkupAssist
