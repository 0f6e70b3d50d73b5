import MarkupAssist.Text.Split

/-!
# Letters in ASCII

A label with letters outside ASCII is sent as ASCII: its ASCII characters come first, then a hyphen,
then the others as a row of numbers. The others are taken in the order of their code points, and
each number is the distance to the next one, counted over all code points and all places of the
label. A number is written with digits to the base 36, the lowest first; where a number ends is
decided by a threshold for every digit, which adapts to the numbers that came before.

* `encode` writes a label, `decode?` reads it;
* `adapt` chooses the thresholds for the next number.
-/

namespace MarkupAssist.Domain.Punycode

open Text

/-- The base of the digits. -/
def base : Nat := 36

/-- The first code point that is written as a number. -/
def firstCode : Nat := 0x80

/-- The bias before the first number. -/
def firstBias : Nat := 72

/-- Numbers are smaller than this. -/
def numberBound : Nat := 0x100000000

/-- The value of a digit. -/
def digitValue? (c : Char) : Option Nat :=
  if c.isLower then some (c.toNat - 'a'.toNat)
  else if c.isUpper then some (c.toNat - 'A'.toNat)
  else if c.isDigit then some (c.toNat - '0'.toNat + 26)
  else none

/-- The digit of a value. -/
def digit (value : Nat) : Char :=
  if value < 26 then Char.ofNat ('a'.toNat + value) else Char.ofNat ('0'.toNat + (value - 26))

/-- The least value that does not end a number, at the place whose distance from the start of the
number is `position - base`. -/
def threshold (bias position : Nat) : Nat :=
  if position ≤ bias then 1 else if bias + 26 ≤ position then 26 else position - bias

theorem threshold_pos (bias position : Nat) : 0 < threshold bias position := by
  unfold threshold
  split
  · exact Nat.one_pos
  · split <;> omega

/-- Divide until the number is small, and count what the steps are worth. -/
def settle (delta position : Nat) : Nat :=
  if 455 < delta then settle (delta / 35) (position + base)
  else position + 36 * delta / (delta + 38)
termination_by delta
decreasing_by exact Nat.div_lt_self (by omega) (by omega)

/-- The bias after a number, when `count` characters have been placed. -/
def adapt (delta count : Nat) (isFirst : Bool) : Nat :=
  let halved := if isFirst then delta / 700 else delta / 2
  settle (halved + halved / count) 0

/-! ### Writing -/

/-- The digits of a number. -/
def writeNumber (bias position number : Nat) : List Char :=
  let least := threshold bias position
  if number < least then [digit number]
  else
    digit (least + (number - least) % (base - least)) ::
      writeNumber bias (position + base) ((number - least) / (base - least))
termination_by number
decreasing_by
  have hpos := threshold_pos bias position
  exact Nat.lt_of_le_of_lt (Nat.div_le_self _ _) (by omega)

/-- A label while it is written. -/
structure Writing where
  /-- The numbers so far. -/
  digits : List Char
  /-- The distance from the last number. -/
  delta : Nat
  bias : Nat
  /-- How many characters have been placed. -/
  placed : Nat

/-- Pass a character of the label on the way to the characters with the code point `code`. -/
def Writing.pass (basicCount code : Nat) (s : Writing) (c : Char) : Writing :=
  if c.toNat < code then { s with delta := s.delta + 1 }
  else if c.toNat = code then
    { digits := s.digits ++ writeNumber s.bias base s.delta
      delta := 0
      bias := adapt s.delta (s.placed + 1) (s.placed == basicCount)
      placed := s.placed + 1 }
  else s

/-- Write the numbers of the characters whose code points are listed, in increasing order. -/
def writeCodes (label : List Char) (basicCount : Nat) :
    Nat → List Nat → Writing → Writing
  | _, [], s => s
  | next, code :: codes, s =>
    let s := { s with delta := s.delta + (code - next) * (s.placed + 1) }
    let s := label.foldl (Writing.pass basicCount code) s
    writeCodes label basicCount (code + 1) codes { s with delta := s.delta + 1 }

/-- A label in ASCII. -/
def encode (label : List Char) : List Char :=
  let basic := label.filter (·.toNat < firstCode)
  let codes := ((label.map Char.toNat).filter (firstCode ≤ ·)).mergeSort.eraseDups
  let written := writeCodes label basic.length firstCode codes ⟨[], 0, firstBias, basic.length⟩
  (if basic.isEmpty then [] else basic ++ ['-']) ++ written.digits

/-! ### Reading -/

/-- A label while it is read. -/
structure Reading where
  /-- The characters so far. -/
  label : List Char
  /-- The code point of the last character placed. -/
  code : Nat
  /-- Where the present number has got to. -/
  place : Nat
  /-- Where the present number started. -/
  start : Nat
  /-- What the next digit is worth. -/
  weight : Nat
  /-- The position of the next digit in its number. -/
  position : Nat
  bias : Nat

/-- A label before its first number. -/
def Reading.ofBasic (basic : List Char) : Reading :=
  ⟨basic, firstCode, 0, 0, 1, base, firstBias⟩

/-- Read one digit. The last digit of a number puts a character in its place. -/
def Reading.step? (s : Reading) (c : Char) : Option Reading := do
  let value ← digitValue? c
  let place := s.place + value * s.weight
  let least := threshold s.bias s.position
  if numberBound ≤ place then none
  else if value < least then
    let count := s.label.length + 1
    let code := s.code + place / count
    if Nat.isValidChar code then
      let index := place % count
      some {
        label := s.label.take index ++ Char.ofNat code :: s.label.drop index
        code
        place := index + 1
        start := index + 1
        weight := 1
        position := base
        bias := adapt (place - s.start) count (s.start == 0) }
    else none
  else
    let weight := s.weight * (base - least)
    if numberBound ≤ weight then none
    else some { s with place, weight, position := s.position + base }

/-- The label that is written as `text` in ASCII. -/
def decode? (text : List Char) : Option (List Char) := do
  let (basic, digits) := match splitLast? (· == '-') text with
    | some ([], _) | none => ([], text)
    | some (basic, rest) => (basic, rest.drop 1)
  let read ← digits.foldlM Reading.step? (Reading.ofBasic basic)
  -- A number that has not ended is an error.
  if read.position = base then some read.label else none

end MarkupAssist.Domain.Punycode
